import Mathlib
import SeriesImport.LineProtocol.Read
/-!
# Points read from a line have text names, each once

The reader stores a tag or a field with `putEntry` under a key made of the text read, so the
names of a point's tags, and those of its fields, are texts, each named once, and its
measurement is a text. These are the facts a column write needs of a point: every name can be
a key, and a lookup by name finds the one value the line gave it.
-/

namespace SeriesImport

/-- Entries whose keys are texts, each key once. -/
structure TextKeyed (es : List (Value × Value)) : Prop where
  text : ∀ e ∈ es, ∃ t, e.1 = .str t
  nodup : (es.map Prod.fst).Nodup

/-- A point whose measurement is a text and whose tags and fields have text names, each once. -/
structure Point.Keyed (p : Point) : Prop where
  measurement : ∃ t, p.measurement = .str t
  tags : TextKeyed p.tags
  fields : TextKeyed p.fields

theorem Value.sameScalar_str_iff (v : Value) (s : String) :
    Value.sameScalar v (.str s) = true ↔ v = .str s := by
  cases v <;> simp [Value.sameScalar, Value.asInt?]

theorem TextKeyed.nil : TextKeyed [] := ⟨by simp, by simp⟩

/-- Setting a text key keeps the keys texts, each once. -/
theorem TextKeyed.putEntry {es : List (Value × Value)} (h : TextKeyed es) (t : String) (v : Value) :
    TextKeyed (putEntry es (.str t) v) := by
  unfold SeriesImport.putEntry
  split
  · have hkeys : ((es.map fun e => if Value.sameScalar e.1 (.str t) then (e.1, v) else e).map
        Prod.fst) = es.map Prod.fst := by
      simp only [List.map_map]
      congr 1
      funext e
      simp only [Function.comp_apply]
      split <;> rfl
    refine ⟨?_, hkeys ▸ h.nodup⟩
    intro e he
    obtain ⟨e', he', rfl⟩ := List.mem_map.1 he
    split
    · exact h.text e' he'
    · exact h.text e' he'
  · next hany =>
    have hnew : ∀ e ∈ es, e.1 ≠ .str t := fun e he hk =>
      hany (List.any_eq_true.2 ⟨e, he, (Value.sameScalar_str_iff _ _).2 hk⟩)
    refine ⟨?_, ?_⟩
    · intro e he
      rcases List.mem_append.1 he with he | he
      · exact h.text e he
      · exact ⟨t, by rw [List.mem_singleton.1 he]⟩
    · rw [List.map_append, List.nodup_append]
      refine ⟨h.nodup, by simp, ?_⟩
      intro a ha b hb
      obtain ⟨e, he, rfl⟩ := List.mem_map.1 ha
      rw [List.map_singleton, List.mem_singleton] at hb
      exact hb ▸ hnew e he

namespace LineProtocol

/-- A scan whose tags and fields have text keys, each once. -/
def Scan.Keyed (s : Scan) : Prop := TextKeyed s.tags ∧ TextKeyed s.fields

@[simp] theorem Scan.append_tags (s : Scan) (c : Char) : (s.append c).tags = s.tags := by
  unfold Scan.append
  split <;> rfl

@[simp] theorem Scan.append_fields (s : Scan) (c : Char) : (s.append c).fields = s.fields := by
  unfold Scan.append
  split <;> rfl

theorem Scan.Keyed.commit {s : Scan} (h : s.Keyed) : s.commit.Keyed := by
  unfold Scan.commit
  split
  · exact h
  · split
    · exact ⟨h.1.putEntry _ _, h.2⟩
    · exact ⟨h.1.putEntry _ _, h.2⟩
    · exact ⟨h.1, h.2.putEntry _ _⟩
    · exact ⟨h.1, h.2.putEntry _ _⟩
    · exact h

/-- Feeding a character leaves the entries of a scan as they were, or stores its pending
pair. -/
theorem Scan.feed_entries {s s' : Scan} {c : Char}
    (hf : s.feed c = .next s' ∨ s.feed c = .stop s') :
    (s'.tags = s.tags ∧ s'.fields = s.fields) ∨
      (s'.tags = s.commit.tags ∧ s'.fields = s.commit.fields) := by
  obtain hf | hf := hf
  all_goals
    unfold Scan.feed at hf
    dsimp only at hf
    repeat' split at hf
  all_goals cases hf <;> simp

theorem Scan.Keyed.feed {s s' : Scan} {c : Char} (h : s.Keyed)
    (hf : s.feed c = .next s' ∨ s.feed c = .stop s') : s'.Keyed := by
  rcases Scan.feed_entries hf with ⟨ht, hf⟩ | ⟨ht, hf⟩
  · exact ⟨ht ▸ h.1, hf ▸ h.2⟩
  · exact ⟨ht ▸ h.commit.1, hf ▸ h.commit.2⟩

/-- A scan run over characters keeps its keys texts, each once. -/
theorem Scan.Keyed.run {s s' : Scan} {cs : List Char} (h : s.Keyed) (hr : s.run cs = .ok s') :
    s'.Keyed := by
  induction cs generalizing s with
  | nil =>
    cases hr
    exact h
  | cons c cs ih =>
    simp only [Scan.run] at hr
    split at hr
    · next s1 hf => exact ih (h.feed (.inl hf)) hr
    · next s1 hf =>
      cases hr
      exact h.feed (.inr hf)
    · cases hr

/-- A step in `Except` that succeeds after a bind: the first part succeeded, and the rest from its
value. -/
theorem bind_eq_ok {α β ε : Type} {x : Except ε α} {f : α → Except ε β} {b : β}
    (h : (x >>= f) = .ok b) : ∃ a, x = .ok a ∧ f a = .ok b := by
  cases x with
  | error e => cases h
  | ok a => exact ⟨a, rfl, h⟩

theorem Point.make_eq {m ts : Value} {t f : List (Value × Value)} {p : Point}
    (h : Point.make m t f ts = .ok p) : p = ⟨m, t, f, ts⟩ := by
  unfold Point.make at h
  split at h
  · cases h
  · split at h
    · cases h
    · exact (Except.ok.inj h).symm

/-- A finished scan gives a point of the text read as measurement and of its stored entries. -/
theorem Scan.finish_ok {s : Scan} {line : String} {m : Value} {now : Int} {p : Point}
    (h : s.finish line m now = .ok p) :
    p.measurement = .str (String.ofList s.commit.measurement.reverse) ∧
      p.tags = s.commit.tags ∧ p.fields = s.commit.fields := by
  have hmade : ∀ ts : Value, (if s.commit.fields.isEmpty = true then
      (throw (Error.parse "no fields input" none line) >>= fun (_ : PUnit) =>
        Point.make (.str (String.ofList s.commit.measurement.reverse)) s.commit.tags
          s.commit.fields ts)
      else Point.make (.str (String.ofList s.commit.measurement.reverse)) s.commit.tags
        s.commit.fields ts) = .ok p →
      p.measurement = .str (String.ofList s.commit.measurement.reverse) ∧
        p.tags = s.commit.tags ∧ p.fields = s.commit.fields := by
    intro ts hts
    split at hts
    · cases hts
    · rw [Point.make_eq hts]
      exact ⟨rfl, rfl, rfl⟩
  unfold Scan.finish at h
  dsimp only at h
  split at h
  · exact hmade _ h
  · obtain ⟨v, -, h⟩ := bind_eq_ok h
    split at h
    · obtain ⟨ts, -, h⟩ := bind_eq_ok h
      exact hmade ts h
    · obtain ⟨ts, hts, -⟩ := bind_eq_ok h
      cases hts

/-- A line read as a point gives a text measurement and text names, each once. -/
theorem readLine_keyed {line : String} {m : Value} {now : Int} {p : Point}
    (h : readLine line m now = .ok (some p)) : p.Keyed := by
  unfold readLine at h
  dsimp only at h
  split at h
  · cases h
  · cases h
  · cases hd : readData (Text.strip line) m now with
    | error e => simp [hd, Except.map] at h
    | ok q =>
      simp only [hd, Except.map, Except.ok.injEq, Option.some.injEq] at h
      subst h
      unfold readData at hd
      split at hd
      · next s hs =>
        have hk := (Scan.Keyed.run ⟨TextKeyed.nil, TextKeyed.nil⟩ hs).commit
        obtain ⟨hm, ht, hf⟩ := Scan.finish_ok hd
        exact ⟨⟨_, hm⟩, ht ▸ hk.1, hf ▸ hk.2⟩
      · cases hd

end LineProtocol

end SeriesImport
