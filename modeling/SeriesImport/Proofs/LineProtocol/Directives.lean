import Mathlib
import SeriesImport.LineProtocol.Step
import SeriesImport.InputFile
/-!
# What the directives of a line protocol file set

A unit of a line protocol file is one of six kinds (`Kind`): a phase directive `# DDL` or
`# DML`, a database or retention policy directive with its value, a line of data, or something
ignored. The step of the import is a function of the kind alone.

The context after some units is then read off the last directives among them: the phase of the
last phase directive, the database of the last database directive, and the retention policy of
the last directive that sets one, `# DML` setting `autogen` (`phaseAfter`, `databaseAfter`,
`retentionAfter`). Each unit is read with the units before it (`readsFrom`), so the data a file
asks for is a declarative list: the queries of the units read in the DDL phase, the lines with
their target of those read in the DML phase with a database named, and as failures those with
none.

Units are the lines of a file with their ends removed, and no unit holds a line feed.
-/

namespace SeriesImport.LineProtocol

/-- What a unit of a line protocol file is. -/
inductive Kind where
  | ddl
  | dml
  | database (name : String)
  | retention (name : String)
  | data (text : String)
  | ignored

/-- The kind of a unit: directives by the head they start with, then data, the unit stripped,
unless it is blank or a comment. -/
def kind (u : String) : Kind :=
  if u.startsWith "# DDL" then .ddl
  else if u.startsWith "# DML" then .dml
  else if u.startsWith "# CONTEXT-DATABASE:" then .database (directiveValue u)
  else if u.startsWith "# CONTEXT-RETENTION-POLICY:" then .retention (directiveValue u)
  else
    let d := Text.strip u
    if d.isEmpty || d.startsWith "#" then .ignored else .data d

/-- The step of the import on a unit, by its kind. -/
theorem step_eq_kind (u : String) (c : Context) :
    step u c = match kind u with
      | .ddl => ({ c with phase := .ddl }, .noop)
      | .dml => ({ c with phase := .dml, retentionPolicy := .str "autogen" }, .noop)
      | .database x => ({ c with database := .str x }, .noop)
      | .retention x => ({ c with retentionPolicy := .str x }, .noop)
      | .data d => match c.phase with
        | .ddl => (c, .query d)
        | .dml => (c, .lines [d])
      | .ignored => (c, .noop) := by
  simp only [step, kind]
  split_ifs <;> rfl

theorem step_fst (u : String) (c : Context) :
    (step u c).1 = match kind u with
      | .ddl => { c with phase := .ddl }
      | .dml => { c with phase := .dml, retentionPolicy := .str "autogen" }
      | .database x => { c with database := .str x }
      | .retention x => { c with retentionPolicy := .str x }
      | .data _ | .ignored => c := by
  rw [step_eq_kind]
  cases kind u
  case data d => cases c.phase <;> rfl
  all_goals rfl

theorem step_snd (u : String) (c : Context) :
    (step u c).2 = match kind u with
      | .data d => match c.phase with
        | .ddl => .query d
        | .dml => .lines [d]
      | _ => .noop := by
  rw [step_eq_kind]
  cases kind u
  case data d => cases c.phase <;> rfl
  all_goals rfl

/-! ## The last directives -/

/-- The phase a unit sets, if it is a phase directive. -/
def Kind.phase? : Kind → Option Phase
  | .ddl => some .ddl
  | .dml => some .dml
  | _ => none

/-- The database a unit names, if it is a database directive. -/
def Kind.database? : Kind → Option String
  | .database x => some x
  | _ => none

/-- The retention policy a unit sets, if any: `autogen` for `# DML`. -/
def Kind.retention? : Kind → Option String
  | .dml => some "autogen"
  | .retention x => some x
  | _ => none

/-- The phase after some units: that of the last phase directive, DDL before any. -/
def phaseAfter (us : List String) : Phase := (us.reverse.findSome? (kind · |>.phase?)).getD .ddl

/-- The database after some units: that of the last database directive, empty before any. -/
def databaseAfter (us : List String) : String :=
  (us.reverse.findSome? (kind · |>.database?)).getD ""

/-- The retention policy after some units: that of the last directive setting one, empty before
any. -/
def retentionAfter (us : List String) : String :=
  (us.reverse.findSome? (kind · |>.retention?)).getD ""

theorem findSome?_getD_append_singleton {β : Type} (f : String → Option β) (d : β)
    (us : List String) (u : String) :
    ((us ++ [u]).reverse.findSome? f).getD d = (f u).getD ((us.reverse.findSome? f).getD d) := by
  rw [List.reverse_append, List.reverse_singleton, List.singleton_append, List.findSome?_cons]
  cases f u <;> rfl

theorem phaseAfter_append_singleton (us : List String) (u : String) :
    phaseAfter (us ++ [u]) = (kind u).phase?.getD (phaseAfter us) :=
  findSome?_getD_append_singleton _ _ us u

theorem databaseAfter_append_singleton (us : List String) (u : String) :
    databaseAfter (us ++ [u]) = (kind u).database?.getD (databaseAfter us) :=
  findSome?_getD_append_singleton _ _ us u

theorem retentionAfter_append_singleton (us : List String) (u : String) :
    retentionAfter (us ++ [u]) = (kind u).retention?.getD (retentionAfter us) :=
  findSome?_getD_append_singleton _ _ us u

/-- The context agrees with the units read before: its phase, database and retention policy are
those their last directives set. -/
structure Agrees (pre : List String) (c : Context) : Prop where
  phase : c.phase = phaseAfter pre
  database : c.database = .str (databaseAfter pre)
  retentionPolicy : c.retentionPolicy = .str (retentionAfter pre)

theorem Agrees.nil : Agrees [] ({} : Context) := ⟨rfl, rfl, rfl⟩

/-- Stepping a context that agrees with the units before it gives one that agrees with them
and the unit. -/
theorem Agrees.step {pre : List String} {c : Context} (h : Agrees pre c) (u : String) :
    Agrees (pre ++ [u]) (step u c).1 := by
  obtain ⟨hp, hd, hr⟩ := h
  rw [step_fst]
  constructor <;>
    simp only [phaseAfter_append_singleton, databaseAfter_append_singleton,
      retentionAfter_append_singleton] <;>
    cases kind u <;> simp_all [Kind.phase?, Kind.database?, Kind.retention?]

theorem step_keeps (u : String) (c : Context) :
    (step u c).1.pendingLines = c.pendingLines ∧ (step u c).1.pendingPoints = c.pendingPoints ∧
      (step u c).1.pendingTarget = c.pendingTarget := by
  rw [step_fst]
  cases kind u <;> exact ⟨rfl, rfl, rfl⟩

/-! ## What the units ask for -/

/-- Each unit with the units read before it, the first ones after `pre`. -/
def readsFrom : List String → List String → List (List String × String)
  | _, [] => []
  | pre, u :: us => (pre, u) :: readsFrom (pre ++ [u]) us

theorem readsFrom_append_singleton (pre us : List String) (u : String) :
    readsFrom pre (us ++ [u]) = readsFrom pre us ++ [(pre ++ us, u)] := by
  induction us generalizing pre with
  | nil => simp [readsFrom]
  | cons v us ih => simp [readsFrom, ih]

/-- The query a unit read after `pre` asks for: its data, in the DDL phase. -/
def queryOf (pre : List String) (u : String) : Option String :=
  match kind u, phaseAfter pre with
  | .data d, .ddl => some d
  | _, _ => none

/-- The line a unit read after `pre` queues, with its target: its data, in the DML phase with a
database named. -/
def lineOf (pre : List String) (u : String) : Option (String × Value × Value) :=
  match kind u, phaseAfter pre with
  | .data d, .dml =>
    if (databaseAfter pre).isEmpty then none
    else some (d, .str (databaseAfter pre), .str (retentionAfter pre))
  | _, _ => none

/-- Whether a unit read after `pre` fails: data in the DML phase with no database named. -/
def orphan (pre : List String) (u : String) : Bool :=
  match kind u, phaseAfter pre with
  | .data _, .dml => (databaseAfter pre).isEmpty
  | _, _ => false

/-- The queries the units ask for, in order. -/
def queriesOf (us : List String) : List String :=
  (readsFrom [] us).filterMap fun r => queryOf r.1 r.2

/-- The lines the units queue, in order, each with the database and retention policy in force
when it was read. -/
def linesOf (us : List String) : List (String × Value × Value) :=
  (readsFrom [] us).filterMap fun r => lineOf r.1 r.2

/-- The number of units that fail for want of a database. -/
def orphansOf (us : List String) : Nat :=
  ((readsFrom [] us).filter fun r => orphan r.1 r.2).length

@[simp] theorem queriesOf_nil : queriesOf [] = [] := rfl

@[simp] theorem linesOf_nil : linesOf [] = [] := rfl

@[simp] theorem orphansOf_nil : orphansOf [] = 0 := rfl

theorem queriesOf_append_singleton (us : List String) (u : String) :
    queriesOf (us ++ [u]) = queriesOf us ++ (queryOf us u).toList := by
  simp only [queriesOf, readsFrom_append_singleton, List.filterMap_append, List.nil_append]
  cases h : queryOf us u <;> simp [h]

theorem linesOf_append_singleton (us : List String) (u : String) :
    linesOf (us ++ [u]) = linesOf us ++ (lineOf us u).toList := by
  simp only [linesOf, readsFrom_append_singleton, List.filterMap_append, List.nil_append]
  cases h : lineOf us u <;> simp [h]

theorem orphansOf_append_singleton (us : List String) (u : String) :
    orphansOf (us ++ [u]) = orphansOf us + if orphan us u then 1 else 0 := by
  simp only [orphansOf, readsFrom_append_singleton, List.filter_append, List.nil_append,
    List.length_append]
  cases h : orphan us u <;> simp [h]

/-! ## Units hold no line feed -/

/-- The units of a line protocol text: its lines with their ends removed. -/
def units (text : String) : List String := (Text.fileLines text).map Text.dropLineEnd

/-- Each line of a file is a text without line feed followed by line ends. -/
theorem fileLinesFrom_shape (cs acc : List Char) (hacc : '\n' ∉ acc) :
    ∀ l ∈ Text.fileLinesFrom cs acc, ∃ xs ys, l.toList = xs ++ ys ∧ '\n' ∉ xs ∧
      ∀ c ∈ ys, c = '\n' ∨ c = '\r' := by
  fun_induction Text.fileLinesFrom cs acc with
  | case1 => simp
  | case2 acc _ =>
    intro l hl
    rw [List.mem_singleton] at hl
    subst hl
    exact ⟨acc.reverse, [], by simp, by simpa using hacc, by simp⟩
  | case3 rest acc ih =>
    intro l hl
    rcases List.mem_cons.mp hl with rfl | hl
    · exact ⟨acc.reverse, ['\r', '\n'], by simp, by simpa using hacc, by simp⟩
    · exact ih (List.not_mem_nil) l hl
  | case4 c rest acc _ hend ih =>
    intro l hl
    rcases List.mem_cons.mp hl with rfl | hl
    · refine ⟨acc.reverse, [c], by simp, by simpa using hacc, ?_⟩
      simpa using hend
    · exact ih (List.not_mem_nil) l hl
  | case5 c rest acc _ hend ih =>
    refine ih ?_
    simp only [Bool.or_eq_true, beq_iff_eq, not_or] at hend
    simp [Ne.symm hend.1, hacc]

theorem noLineFeed_dropLineEnd {l : String} {xs ys : List Char} (hl : l.toList = xs ++ ys)
    (hx : '\n' ∉ xs) (hy : ∀ c ∈ ys, c = '\n' ∨ c = '\r') : '\n' ∉ (Text.dropLineEnd l).toList := by
  have hends : ∀ c ∈ ys.reverse, (c == '\n' || c == '\r') = true := by
    intro c hc
    simpa using hy c (List.mem_reverse.mp hc)
  simp only [Text.dropLineEnd, String.toList_ofList, hl, List.reverse_append,
    List.dropWhile_append_of_pos hends, List.mem_reverse]
  exact fun h => hx (List.mem_reverse.mp (List.dropWhile_subset _ h))

theorem noLineFeed_strip {u : String} (h : '\n' ∉ u.toList) : '\n' ∉ (Text.strip u).toList := by
  simp only [Text.strip, Text.stripEnd, Text.stripStart, String.toList_ofList, List.mem_reverse]
  exact fun hm => h (List.dropWhile_subset _ (List.mem_reverse.mp (List.dropWhile_subset _ hm)))

theorem eq_strip_of_kind_eq_data {u d : String} (h : kind u = .data d) : d = Text.strip u := by
  simp only [kind] at h
  split_ifs at h
  exact (Kind.data.inj h).symm

theorem noLineFeed_of_mem_units {text u : String} (h : u ∈ units text) : '\n' ∉ u.toList := by
  obtain ⟨l, hl, rfl⟩ := List.mem_map.mp h
  obtain ⟨xs, ys, hshape, hx, hy⟩ := fileLinesFrom_shape text.toList [] List.not_mem_nil l hl
  exact noLineFeed_dropLineEnd hshape hx hy

end SeriesImport.LineProtocol
