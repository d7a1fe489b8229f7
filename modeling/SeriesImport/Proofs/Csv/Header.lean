import Mathlib
import SeriesImport.Proofs.Csv.Step
/-!
# Resolving a header of texts

A header of texts is resolved against configured tags `T`, fields `F` and a time name `t`, all
texts. Resolution fails with the first fault in the order the names are checked
(`headerFault`): a tag that is also a field, then a tag the header lacks, then a field it lacks,
each the first of its list, and last a missing time column. Otherwise every column stands at the
first place of its name in the header (`firstColumn`). The tag columns are the distinct names of
`T` in order; the field columns are the distinct names of `F`, or, when no field is configured,
the header's names that are neither tags nor the time name, in the order they first occur
(`fieldNames`).
-/

namespace SeriesImport.Csv

/-! ## Distinct names in order -/

theorem eraseDups_append_singleton (l : List String) (n : String) :
    (l ++ [n]).eraseDups = if n ∈ l then l.eraseDups else l.eraseDups ++ [n] := by
  rw [List.eraseDups_append]
  by_cases h : n ∈ l <;> simp [h, List.removeAll, List.eraseDups_cons]

theorem nodup_eraseDups (l : List String) : l.eraseDups.Nodup := by
  induction l using List.reverseRecOn with
  | nil => simp
  | append_singleton l n ih =>
    rw [eraseDups_append_singleton]
    split
    · exact ih
    · next h =>
      refine List.nodup_append.2 ⟨ih, by simp, ?_⟩
      intro a ha b hb hab
      rw [List.mem_singleton.1 hb] at hab
      exact h (hab ▸ List.mem_eraseDups.1 ha)

theorem eraseDups_of_nodup {l : List String} (h : l.Nodup) : l.eraseDups = l := by
  induction l using List.reverseRecOn with
  | nil => rfl
  | append_singleton l n ih =>
    obtain ⟨hl, -, hn⟩ := List.nodup_append.1 h
    have hnot : n ∉ l := fun hm => hn n hm n (by simp) rfl
    rw [eraseDups_append_singleton, if_neg hnot, ih hl]

/-! ## The model's pieces on texts -/

/-- The column of a name at its first place in a header, under that name. -/
def firstColumn (header : List String) (n : String) : Value × Column :=
  (.str n, ⟨.str n, header.idxOf n⟩)

/-- The places of a header: each distinct name with its first place. -/
def firstPlaces (header : List String) : List (Value × Nat) :=
  header.eraseDups.map fun n => (.str n, header.idxOf n)

theorem str_equals_str (a b : String) : (Value.str a).equals (.str b) = decide (a = b) := by
  by_cases h : a = b
  · subst h
    simp
  · rw [decide_eq_false h]
    exact Bool.eq_false_iff.2 fun he => h (Value.str.inj ((Value.str_equals_iff _ _).1 he)).symm

theorem any_firstColumn (header L : List String) (n : String) :
    ((L.map (firstColumn header)).any fun e => e.1.equals (.str n)) = decide (n ∈ L) := by
  rw [Bool.eq_iff_iff, List.any_eq_true, decide_eq_true_iff]
  simp [firstColumn]

/-- Each name of a header of texts goes at its first place, the names in the order they first
occur. -/
theorem positions_texts (header : List String) :
    positions (header.map .str) = .ok (firstPlaces header) := by
  induction header using List.reverseRecOn with
  | nil => rfl
  | append_singleton P n ih =>
    unfold positions at ih ⊢
    rw [List.map_append, List.zipIdx_append, List.foldlM_append, ih]
    have hany : ((firstPlaces P).any fun e => e.1.equals (.str n)) = decide (n ∈ P) := by
      rw [Bool.eq_iff_iff, List.any_eq_true, decide_eq_true_iff]
      simp [firstPlaces]
    simp only [List.map_cons, List.map_nil, List.zipIdx_cons, List.zipIdx_nil, List.length_map,
      Nat.zero_add, List.foldlM_cons, List.foldlM_nil, Value.requireKey, Value.hashable]
    simp only [firstPlaces, eraseDups_append_singleton, bind, Except.bind, pure, Except.pure,
      if_true]
    by_cases h : n ∈ P
    · have hfirst : ∀ m ∈ P.eraseDups, (P ++ [n]).idxOf m = P.idxOf m := fun m hm => by
        rw [List.idxOf_append, if_pos (List.mem_eraseDups.1 hm)]
      simp only [firstPlaces] at hany
      simp only [hany, h, decide_true, if_true]
      exact congrArg Except.ok (List.map_congr_left fun m hm => by rw [hfirst m hm])
    · have hfirst : ∀ m ∈ P.eraseDups, (P ++ [n]).idxOf m = P.idxOf m := fun m hm => by
        rw [List.idxOf_append, if_pos (List.mem_eraseDups.1 hm)]
      have hnew : (P ++ [n]).idxOf n = P.length := by
        rw [List.idxOf_append, if_neg h]
        simp
      simp only [firstPlaces] at hany
      simp only [hany, h, decide_false, Bool.false_eq_true, if_false, List.map_append,
        List.map_cons, List.map_nil, hnew]
      exact congrArg Except.ok (congrArg (· ++ _) (List.map_congr_left fun m hm => by
        rw [hfirst m hm]))

theorem find?_beq (l : List String) (n : String) :
    l.find? (· == n) = if n ∈ l then some n else none := by
  induction l with
  | nil => simp
  | cons a l ih =>
    by_cases h : a = n
    · simp [h]
    · simp [h, ih, Ne.symm h]

/-- A text name is found among the places of a header exactly when the header has it, at its
first place. -/
theorem placeOf_texts (header : List String) (n : String) :
    placeOf (firstPlaces header) (.str n) =
      .ok (if n ∈ header then some (header.idxOf n) else none) := by
  unfold placeOf firstPlaces
  have hp : ((fun e : Value × Nat => e.1.equals (.str n)) ∘ fun m => (.str m, header.idxOf m)) =
      (· == n) := by
    funext m
    rw [Bool.eq_iff_iff]
    simp only [Function.comp, Value.str_equals_iff, Value.str.injEq, beq_iff_eq]
    exact eq_comm
  simp only [Value.requireKey, Value.hashable, if_true, bind, Except.bind, pure, Except.pure,
    List.find?_map, hp, find?_beq, List.mem_eraseDups]
  by_cases h : n ∈ header <;> simp [h]

/-- Setting the column of a name at its first place, over the columns of the distinct names so
far, keeps them and adds the name at the end when it is new. -/
theorem putColumn_firstColumn (header L : List String) (n : String) :
    putColumn (L.eraseDups.map (firstColumn header)) (.str n) (firstColumn header n).2 =
      (L ++ [n]).eraseDups.map (firstColumn header) := by
  unfold putColumn
  rw [any_firstColumn, eraseDups_append_singleton]
  by_cases h : n ∈ L
  · simp only [List.mem_eraseDups, h, decide_true, if_true, List.map_map]
    refine List.map_congr_left fun m _ => ?_
    by_cases hm : m = n
    · subst hm
      simp [firstColumn]
    · simp [firstColumn, hm]
  · simp [h, firstColumn]

/-- Mapping configured text names from the columns of the names `L` so far: the first name the
header lacks fails, and otherwise each new name is added at its first place. -/
theorem mapNames_from (header L names : List String) (missing : Value → String) :
    (names.map Value.str).foldlM (fun m name => do
        match ← placeOf (firstPlaces header) name with
        | some p => pure (putColumn m name ⟨name, p⟩)
        | none => throw (Error.header (missing name))) (L.eraseDups.map (firstColumn header)) =
      match names.find? (· ∉ header) with
      | some n => .error (.header (missing (.str n)))
      | none => .ok ((L ++ names).eraseDups.map (firstColumn header)) := by
  induction names generalizing L with
  | nil =>
    simp only [List.map_nil, List.foldlM_nil, List.find?_nil, List.append_nil]
    rfl
  | cons n names ih =>
    rw [List.map_cons, List.foldlM_cons, placeOf_texts]
    simp only [bind, Except.bind, pure, Except.pure] at ih ⊢
    by_cases h : n ∈ header
    · have hput := putColumn_firstColumn header L n
      simp only [firstColumn] at hput
      simp only [h, if_true, hput]
      rw [ih (L ++ [n])]
      simp [h]
    · simp [h, throw, throwThe, MonadExceptOf.throw]

theorem mapNames_texts (header names : List String) (missing : Value → String) :
    mapNames (firstPlaces header) (names.map .str) missing =
      match names.find? (· ∉ header) with
      | some n => .error (.header (missing (.str n)))
      | none => .ok (names.eraseDups.map (firstColumn header)) :=
  mapNames_from header [] names missing

theorem contains_texts (F : List String) (n : String) :
    (Value.list (F.map .str)).contains (.str n) = .ok (decide (n ∈ F)) := by
  simp only [Value.contains]
  congr 1
  rw [Bool.eq_iff_iff, List.any_eq_true, decide_eq_true_iff]
  simp

/-- Looking for a tag among configured fields after an earlier finding: the earlier finding
stays, and otherwise the first tag that is a field is found. -/
theorem tagInFields_from (T F : List String) (found : Option Value) :
    (T.map Value.str).foldlM (fun found name => do
        match found with
        | some _ => pure found
        | none => pure (if ← (Value.list (F.map .str)).contains name then some name else none))
      found = .ok (found.or ((T.find? (· ∈ F)).map .str)) := by
  induction T generalizing found with
  | nil => cases found <;> rfl
  | cons n T ih =>
    rw [List.map_cons, List.foldlM_cons]
    simp only [bind, Except.bind, pure, Except.pure] at ih ⊢
    cases found with
    | some v => simpa using ih (some v)
    | none =>
      rw [contains_texts]
      by_cases h : n ∈ F
      · simpa [h] using ih (some (.str n))
      · simpa [h] using ih none

theorem tagInFields_texts (T F : List String) :
    tagInFields (T.map .str) (.list (F.map .str)) = .ok ((T.find? (· ∈ F)).map .str) :=
  tagInFields_from T F none

/-- Columns of distinct text names at their first places, added one by one after the columns of
the names `L`, extend them in the order the names come. -/
theorem foldl_putColumn_firstPlaces (header L names : List String) :
    (names.map fun n => ((Value.str n, header.idxOf n) : Value × Nat)).foldl
        (fun m e => putColumn m e.1 ⟨e.1, e.2⟩) (L.eraseDups.map (firstColumn header)) =
      (L ++ names).eraseDups.map (firstColumn header) := by
  induction names generalizing L with
  | nil => simp
  | cons n names ih =>
    rw [List.map_cons, List.foldl_cons]
    rw [show putColumn (L.eraseDups.map (firstColumn header)) (.str n) ⟨.str n, header.idxOf n⟩ =
      (L ++ [n]).eraseDups.map (firstColumn header) from putColumn_firstColumn header L n, ih]
    simp

/-! ## Resolution -/

/-- The first fault of a header under tags `T`, fields `F` and time name `t`, in the order they
are checked. -/
def headerFault (header T F : List String) (t : String) : Option String :=
  match T.find? (· ∈ F) with
  | some n => some (n ++ " is in both tags and fields")
  | none =>
    match T.find? (· ∉ header) with
    | some n => some ("tag name (" ++ n ++ ") not in csv header")
    | none =>
      match F.find? (· ∉ header) with
      | some n => some ("field name (" ++ n ++ ") not in csv header")
      | none => if t ∈ header then none else some ("time name not in csv header " ++ t)

/-- The names of the field columns: the distinct configured fields, or, with none configured,
the header's names that are neither tags nor the time name, in the order they first occur. -/
def fieldNames (header T F : List String) (t : String) : List String :=
  if F = [] then header.eraseDups.filter (fun n => n ∉ T ∧ n ≠ t) else F.eraseDups

/-- The field columns a header resolves to: with no fields configured, the header's names that
are neither tags nor the time name, at their first places; with some configured, those alone. -/
theorem fields_resolved (header T F : List String) (t : String) :
    (if (Value.list (F.map Value.str)).truthy then F.eraseDups.map (firstColumn header)
      else ((firstPlaces header).filter fun e =>
          !((((T.eraseDups.map (firstColumn header)).any fun c => c.1.equals e.1) ||
            ((F.eraseDups.map (firstColumn header)).any fun c => c.1.equals e.1)) ||
            e.1.equals (.str t))).foldl (fun m e => putColumn m e.1 ⟨e.1, e.2⟩)
          (F.eraseDups.map (firstColumn header))) =
      (fieldNames header T F t).map (firstColumn header) := by
  cases F with
  | cons f F => simp [Value.truthy, fieldNames]
  | nil =>
    have hkeep : ((fun e : Value × Nat =>
        !((((T.eraseDups.map (firstColumn header)).any fun c => c.1.equals e.1) ||
          (([] : List String).eraseDups.map (firstColumn header)).any fun c => c.1.equals e.1) ||
          e.1.equals (.str t))) ∘ fun n => (Value.str n, header.idxOf n)) =
        fun n => decide (n ∉ T ∧ n ≠ t) := by
      funext n
      simp only [Function.comp, any_firstColumn, List.mem_eraseDups, str_equals_str]
      simp
    have hnodup := (nodup_eraseDups header).filter fun n => decide (n ∉ T ∧ n ≠ t)
    simp only [Value.truthy, List.map_nil, List.isEmpty_nil, Bool.not_true, Bool.false_eq_true,
      if_false, firstPlaces, List.filter_map, hkeep]
    rw [← List.eraseDups_nil, foldl_putColumn_firstPlaces]
    simp only [List.eraseDups_nil, List.nil_append, eraseDups_of_nodup hnodup]
    simp [fieldNames]

theorem resolveHeader_texts (header T F : List String) (t : String) (s : Settings) :
    resolveHeader (header.map .str)
        { s with tags := .list (T.map .str), fields := .list (F.map .str), timeField := .str t } =
      match headerFault header T F t with
      | some msg => .error (.header msg)
      | none => .ok (T.eraseDups.map (firstColumn header),
          (fieldNames header T F t).map (firstColumn header), (firstColumn header t).2) := by
  unfold resolveHeader headerFault
  simp only [positions_texts, iterate_list, tagInFields_texts, bind, Except.bind, pure,
    Except.pure]
  cases h1 : T.find? (· ∈ F) with
  | some n => simp [Value.display, throw, throwThe, MonadExceptOf.throw]
  | none =>
    simp only [Option.map_none, mapNames_texts]
    cases h2 : T.find? (· ∉ header) with
    | some n => simp [Value.display]
    | none =>
      cases h3 : F.find? (· ∉ header) with
      | some n => simp [Value.display]
      | none =>
        simp only [placeOf_texts]
        by_cases ht : t ∈ header
        · simp only [ht, if_true, fields_resolved, firstColumn]
        · simp [ht, Value.display, throw, throwThe, MonadExceptOf.throw]

/-- A header has no fault exactly when no tag is a field and the header has every tag, every
field and the time name. -/
theorem headerFault_eq_none_iff (header T F : List String) (t : String) :
    headerFault header T F t = none ↔
      (∀ n ∈ T, n ∉ F) ∧ (∀ n ∈ T, n ∈ header) ∧ (∀ n ∈ F, n ∈ header) ∧ t ∈ header := by
  unfold headerFault
  cases h1 : T.find? (· ∈ F) with
  | some n =>
    have hn := List.mem_of_find?_eq_some h1
    have hnF : n ∈ F := by simpa using List.find?_some h1
    simp only [reduceCtorEq, false_iff, not_and]
    exact fun hTF => absurd hnF (hTF n hn)
  | none =>
    rw [List.find?_eq_none] at h1
    have hTF : ∀ n ∈ T, n ∉ F := fun n hn => by simpa using h1 n hn
    cases h2 : T.find? (· ∉ header) with
    | some n =>
      have hn := List.mem_of_find?_eq_some h2
      have hnh : n ∉ header := by simpa using List.find?_some h2
      simp only [reduceCtorEq, false_iff, not_and]
      exact fun _ hT => absurd (hT n hn) hnh
    | none =>
      rw [List.find?_eq_none] at h2
      have hT : ∀ n ∈ T, n ∈ header := fun n hn => by simpa using h2 n hn
      cases h3 : F.find? (· ∉ header) with
      | some n =>
        have hn := List.mem_of_find?_eq_some h3
        have hnh : n ∉ header := by simpa using List.find?_some h3
        simp only [reduceCtorEq, false_iff, not_and]
        exact fun _ _ hF => absurd (hF n hn) hnh
      | none =>
        rw [List.find?_eq_none] at h3
        have hF : ∀ n ∈ F, n ∈ header := fun n hn => by simpa using h3 n hn
        by_cases ht : t ∈ header
        · simpa [ht] using ⟨hTF, hT, hF⟩
        · simp [ht]

/-- A name stands at place `p` of a header and at no place before. -/
def FirstAt (header : List String) (n : String) (p : Nat) : Prop :=
  header[p]? = some n ∧ ∀ j < p, header[j]? ≠ some n

theorem firstAt_idxOf {header : List String} {n : String} (h : n ∈ header) :
    FirstAt header n (header.idxOf n) := by
  have hlt := List.idxOf_lt_length_of_mem h
  refine ⟨by rw [List.getElem?_eq_getElem hlt, List.getElem_idxOf hlt], fun j hj => ?_⟩
  have hjl : j < header.length := by omega
  have hne := List.not_of_lt_findIdx (p := (· == n)) hj
  rw [List.getElem?_eq_getElem hjl]
  simpa using hne

theorem mem_header_of_fieldNames {header T F : List String} {t : String}
    (hF : ∀ n ∈ F, n ∈ header) : ∀ n ∈ fieldNames header T F t, n ∈ header := by
  intro n hn
  unfold fieldNames at hn
  split at hn
  · exact List.mem_eraseDups.1 (List.mem_filter.1 hn).1
  · exact hF n (List.mem_eraseDups.1 hn)

theorem not_mem_fieldNames {header T F : List String} {t : String} (hTF : ∀ n ∈ T, n ∉ F) :
    ∀ n ∈ T, n ∉ fieldNames header T F t := by
  intro n hn hf
  unfold fieldNames at hf
  split at hf
  · exact (by simpa using (List.mem_filter.1 hf).2 : n ∉ T ∧ n ≠ t).1 hn
  · exact hTF n hn (List.mem_eraseDups.1 hf)

/-- Resolving a header of texts under text tags `T`, text fields `F` and a time name `t`: it fails
with the first fault of `headerFault` and exactly when no tag may be a field or some tag, field
or the time name is missing; otherwise the tags are the distinct names of `T` in order, the
fields those of `fieldNames`, each column under its own name at the first place of that name in
the header, and no name is both a tag and a field. -/
theorem resolveHeader_resolves (header T F : List String) (t : String) (s : Settings) :
    resolveHeader (header.map .str)
        { s with tags := .list (T.map .str), fields := .list (F.map .str), timeField := .str t } =
      (match headerFault header T F t with
        | some msg => .error (.header msg)
        | none => .ok (T.eraseDups.map (firstColumn header),
            (fieldNames header T F t).map (firstColumn header), (firstColumn header t).2)) ∧
    (headerFault header T F t = none ↔
      (∀ n ∈ T, n ∉ F) ∧ (∀ n ∈ T, n ∈ header) ∧ (∀ n ∈ F, n ∈ header) ∧ t ∈ header) ∧
    (headerFault header T F t = none →
      (∀ n ∈ T ++ fieldNames header T F t ++ [t], FirstAt header n (header.idxOf n)) ∧
      ∀ n ∈ T, n ∉ fieldNames header T F t) := by
  refine ⟨resolveHeader_texts header T F t s, headerFault_eq_none_iff header T F t, fun h => ?_⟩
  obtain ⟨hTF, hT, hF, ht⟩ := (headerFault_eq_none_iff header T F t).1 h
  refine ⟨fun n hn => firstAt_idxOf ?_, not_mem_fieldNames hTF⟩
  simp only [List.mem_append, List.mem_singleton] at hn
  rcases hn with (hn | hn) | rfl
  · exact hT n hn
  · exact mem_header_of_fieldNames hF n hn
  · exact ht

/-- A tag that is also a field is reported before the time column is found missing. -/
example : headerFault ["time", "v"] ["v"] ["v"] "when" = some "v is in both tags and fields" := by
  decide

/-- With no fields configured, a repeated column becomes one field, at its first place. -/
example : fieldNames ["time", "a", "host", "a"] ["host"] [] "time" = ["a"] := by decide

end SeriesImport.Csv
