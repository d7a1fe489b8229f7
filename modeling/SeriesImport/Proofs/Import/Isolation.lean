import Mathlib
import SeriesImport.Import
import SeriesImport.Proofs.Dispatch.Steady
/-!
# Which failures end an import

An import isolates the failures of its own kind: a unit whose step or action fails with one is
counted as failed, its message is kept, and the import goes on with the next unit; a batch that
meets one is kept on the failed list. A cancellation ends the import with a report. What ends
an import with an error is therefore a step before it starts (an unknown format, a file that
cannot be opened, a dispatcher that cannot be built), a header that does not fit the settings,
the fault that stopped reading the file when it is not an unreadable document, or a failure
outside the import's own kind. The last is not only a failure of the store: reading the units
can meet one, for instance a series whose name is a number and that has tags.
-/

namespace SeriesImport

open Dispatch Std.Do

set_option mvcgen.warning false

/-- A failure that ends an import rather than a unit: a header that does not fit the settings, or
a failure outside the import's own. -/
def Error.endsImport : Error → Bool
  | .header _ => true
  | e => !e.isImportFailure

/-- A failure that no unit absorbs: one that ends the import, or a cancellation. -/
def Error.stopsUnits : Error → Bool
  | .header _ => true
  | e => !e.gathered

theorem Error.stopsUnits_of_not_import {e : Error} (h : ¬e.isImportFailure = true) :
    e.stopsUnits = true := by
  cases e with
  | header m => rfl
  | cancelled m => rfl
  | _ => simpa [Error.stopsUnits, Error.gathered] using h

theorem Error.endsImport_of_not_gathered {e : Error} (h : e.gathered = false)
    (hc : ∀ m, e ≠ .cancelled m) : e.endsImport = true := by
  cases e with
  | header m => rfl
  | cancelled m => exact absurd rfl (hc m)
  | _ => simpa [Error.endsImport, Error.gathered] using h

theorem Error.endsImport_of_stopsUnits {e : Error} (h : e.stopsUnits = true)
    (hc : ∀ m, e ≠ .cancelled m) : e.endsImport = true := by
  cases e with
  | header m => rfl
  | cancelled m => exact absurd rfl (hc m)
  | _ => simpa [Error.stopsUnits, Error.endsImport, Error.gathered] using h

/-! ## The steps of an import -/

theorem Triple.any {σ α : Type} (m : ExceptT Error (StateM σ) α) :
    ⦃fun _ => ⌜True⌝⦄ m ⦃post⟨fun _ _ => ⌜True⌝, fun _ _ => ⌜True⌝⟩⦄ :=
  Triple.of_outcome fun _ _ => by split <;> trivial

theorem liftRun_run {α : Type} (r : Run α) (st : Session × Tally) :
    (liftRun r).run.run st = ((r.run.run st.1).1, ((r.run.run st.1).2, st.2)) := by
  rfl

theorem liftRun_spec {α : Type} {r : Run α} {Q : Error → Prop}
    (h : ⦃fun _ => ⌜True⌝⦄ r ⦃post⟨fun _ _ => ⌜True⌝, fun e _ => ⌜Q e⌝⟩⦄) :
    ⦃fun _ => ⌜True⌝⦄ liftRun r ⦃post⟨fun _ _ => ⌜True⌝, fun e _ => ⌜Q e⌝⟩⦄ := by
  apply Triple.of_outcome
  intro st _
  have hr := Triple.outcome h trivial (s := st.1)
  rw [liftRun_run]
  split at hr <;> simp_all

theorem drain_failure_spec :
    ⦃fun _ => ⌜True⌝⦄ drain
    ⦃post⟨fun _ _ => ⌜True⌝, fun e _ => ⌜(∃ es, e = .drain es) ∨ e.gathered = false⌝⟩⦄ := by
  apply Triple.of_outcome
  intro s0 _
  have h := Triple.outcome (drain_spec s0) rfl
  split at h <;> simp_all

/-- A unit absorbs every failure of the import's own but a header error and a cancellation. -/
theorem importUnit_spec (f : InputFormat) (settings : Settings) (entry : Entry) :
    ⦃fun _ => ⌜True⌝⦄ importUnit f settings entry
    ⦃post⟨fun _ _ => ⌜True⌝, fun e _ => ⌜e.stopsUnits = true⌝⟩⦄ := by
  have h := fun a => Triple.any (applyAction a)
  mvcgen [importUnit, tally, h]
  case vc3 _ _ _ himport _ => exact Error.stopsUnits_of_not_import himport
  case vc6 _ _ _ himport => exact Error.stopsUnits_of_not_import himport

/-- The units absorb what each of them absorbs. -/
theorem importUnits_spec (f : InputFormat) (settings : Settings) (entries : List Entry) :
    ⦃fun _ => ⌜True⌝⦄ importUnits f settings entries
    ⦃post⟨fun _ _ => ⌜True⌝, fun e _ => ⌜e.stopsUnits = true⌝⟩⦄ := by
  induction entries generalizing settings with
  | nil => mvcgen [importUnits]
  | cons entry rest ih =>
    mvcgen [importUnits, importUnit_spec, ih]

/-- Reading the units passes on what the units do not absorb, and the fault that stopped reading
when it is not an unreadable document. -/
theorem importEntries_spec (f : InputFormat) (settings : Settings) (entries : List Entry)
    (fault : Option Error) :
    ⦃fun _ => ⌜True⌝⦄ importEntries f settings entries fault
    ⦃post⟨fun _ _ => ⌜True⌝, fun e _ => ⌜e.stopsUnits = true ∨
      (fault = some e ∧ ∀ m line content, e ≠ .parse m line content)⌝⟩⦄ := by
  mvcgen [importEntries, importUnits_spec, keepErrors, tally]
  case vc1 hparse _ _ => exact .inr ⟨trivial, hparse⟩
  case vc2 => exact .inl

theorem finalDrain_spec :
    ⦃fun _ => ⌜True⌝⦄ finalDrain ⦃post⟨fun _ _ => ⌜True⌝, fun e _ => ⌜e.gathered = false⌝⟩⦄ := by
  have h := liftRun_spec drain_failure_spec
  mvcgen [finalDrain, keepErrors, tally, h]
  case vc1 hnd _ _ h =>
    rcases h with ⟨es, rfl⟩ | h
    · exact absurd rfl (hnd es)
    · exact h

/-- An import over its units ends with an error only at a header that does not fit the
settings, at the fault that stopped reading, or at a failure outside the import's own. -/
theorem importAll_spec (f : InputFormat) (settings : Settings) (entries : List Entry)
    (fault : Option Error) :
    ⦃fun _ => ⌜True⌝⦄ importAll f settings entries fault
    ⦃post⟨fun _ _ => ⌜True⌝, fun e _ => ⌜e.endsImport = true ∨
      (fault = some e ∧ ∀ m line content, e ≠ .parse m line content)⌝⟩⦄ := by
  mvcgen [importAll, importEntries_spec, finalDrain_spec, keepErrors, tally]
  case vc1 hc _ _ h => exact .inl (Error.endsImport_of_not_gathered h hc)
  case vc3 _ _ _ _ h _ _ _ hc heq =>
    subst heq
    rcases h with h | h
    · exact .inl (Error.endsImport_of_stopsUnits h hc)
    · exact .inr h
  case vc4 _ _ _ _ _ _ _ hc _ _ h => exact .inl (Error.endsImport_of_not_gathered h hc)

/-- A unit whose step fails with one of the import's own failures, other than a header that does
not fit the settings or a cancellation, is counted as failed with its message kept, and
the import goes on with the settings the step gave. -/
theorem importUnit_counts_failure (f : InputFormat) (settings : Settings) (entry : Entry)
    (st : Session × Tally) {c : Context} {settings' : Settings} {err : Error}
    (hstep : f.step entry st.1.context settings st.1.now = (c, settings', .error err))
    (himport : err.isImportFailure = true) (hheader : ∀ m, err ≠ .header m)
    (hcancel : ∀ m, err ≠ .cancelled m) :
    (importUnit f settings entry).run.run st =
      (.ok settings', ({ st.1 with context := c }, { st.2 with
        processed := st.2.processed + 1
        failed := st.2.failed + 1
        errors := st.2.errors ++ [err.message] })) := by
  have h : ⦃fun s => ⌜s = st⌝⦄ importUnit f settings entry
      ⦃post⟨fun r s => ⌜r = settings' ∧ s = ({ st.1 with context := c }, { st.2 with
        processed := st.2.processed + 1
        failed := st.2.failed + 1
        errors := st.2.errors ++ [err.message] })⌝, fun _ _ => ⌜False⌝⟩⦄ := by
    mvcgen [importUnit, tally]
    all_goals
      subst_vars
      simp_all +zetaDelta
  have hout := Triple.outcome h rfl
  split at hout
  · rename_i hrun
    rw [hrun, hout.1, hout.2]
  · exact hout.elim

/-! ## What ends an import -/

/-- How an import of `file` under the settings `s`, against the clients `client`, can end with a
failure. -/
inductive ImportStop (s : Settings) (file : InputFile) (client : Client) : Error → Prop where
  /-- The settings name no known format. -/
  | format {e : Error} : formatOf s = .error e → ImportStop s file client e
  /-- The file cannot be opened. -/
  | unreadable {f : InputFormat} {e : Error} :
      formatOf s = .ok f → f.read file = .error e → ImportStop s file client e
  /-- No dispatcher can be built for the transport. -/
  | dispatcher {f : InputFormat} {entries : List Entry} {fault : Option Error} {e : Error} :
      formatOf s = .ok f → f.read file = .ok (entries, fault) →
      Dispatcher.ofSettings s (importTransport f s).name client.rows client.columns = .error e →
      ImportStop s file client e
  /-- Reading stopped at a fault that is not an unreadable document. -/
  | fault {f : InputFormat} {entries : List Entry} {e : Error} :
      formatOf s = .ok f → f.read file = .ok (entries, some e) →
      (∀ m line content, e ≠ .parse m line content) → ImportStop s file client e
  /-- A header that does not fit the settings. -/
  | header (m : String) : ImportStop s file client (.header m)
  /-- A failure outside the import's own. -/
  | foreign {e : Error} : e.isImportFailure = false → ImportStop s file client e

theorem ImportStop.of_endsImport {s : Settings} {file : InputFile} {client : Client} {e : Error}
    (h : e.endsImport = true) : ImportStop s file client e := by
  cases e with
  | header m => exact .header m
  | _ => exact .foreign (by simpa [Error.endsImport] using h)

/-- A unit whose step fails with one of the import's own failures, other than a header that does
not fit the settings or a cancellation, is counted as failed with its message kept, and the next
unit is read, under the settings the step gave. -/
theorem importUnits_counts_failure (f : InputFormat) (settings : Settings) (entry : Entry)
    (rest : List Entry) (st : Session × Tally) {c : Context} {settings' : Settings} {err : Error}
    (hstep : f.step entry st.1.context settings st.1.now = (c, settings', .error err))
    (himport : err.isImportFailure = true) (hheader : ∀ m, err ≠ .header m)
    (hcancel : ∀ m, err ≠ .cancelled m) :
    (importUnits f settings (entry :: rest)).run.run st =
      (importUnits f settings' rest).run.run ({ st.1 with context := c }, { st.2 with
        processed := st.2.processed + 1
        failed := st.2.failed + 1
        errors := st.2.errors ++ [err.message] }) := by
  have hunit := importUnit_counts_failure f settings entry st hstep himport hheader hcancel
  simp only [importUnits, run_bind, hunit]

/-- An import returns a report, or ends with a failure in one of the ways `ImportStop` lists:
before it starts, at a header that does not fit the settings, at the fault that stopped reading,
or at a failure outside the import's own. Every other failure is absorbed by the unit or the
batch that met it, and a cancellation ends the import with a report: a unit whose step fails
with one of the import's own failures is counted as failed with its message kept, and the import
reads the next unit. -/
theorem importFile_stops (s : Settings) (file : InputFile) (client : Client) (token : Token)
    (now : Int) :
    (match (importFile s file client token now).1 with
      | .ok _ => True
      | .error e => ImportStop s file client e) ∧
    ∀ (f : InputFormat) (settings : Settings) (entry : Entry) (rest : List Entry)
      (st : Session × Tally) (c : Context) (settings' : Settings) (err : Error),
      f.step entry st.1.context settings st.1.now = (c, settings', .error err) →
      err.isImportFailure = true → (∀ m, err ≠ .header m) → (∀ m, err ≠ .cancelled m) →
      (importUnits f settings (entry :: rest)).run.run st =
        (importUnits f settings' rest).run.run ({ st.1 with context := c }, { st.2 with
          processed := st.2.processed + 1
          failed := st.2.failed + 1
          errors := st.2.errors ++ [err.message] }) := by
  refine ⟨?_, fun f settings entry rest st _ _ _ hstep himport hheader hcancel =>
    importUnits_counts_failure f settings entry rest st hstep himport hheader hcancel⟩
  cases hf : formatOf s with
  | error e => simp [importFile, hf, bind, Except.bind, ImportStop.format hf]
  | ok f =>
    cases hr : f.read file with
    | error e => simp [importFile, hf, hr, bind, Except.bind, ImportStop.unreadable hf hr]
    | ok p =>
      obtain ⟨entries, fault⟩ := p
      cases hd : Dispatcher.ofSettings s (importTransport f s).name client.rows client.columns with
      | error e => simp [importFile, hf, hr, hd, bind, Except.bind, ImportStop.dispatcher hf hr hd]
      | ok d =>
        have hrun := Triple.outcome (importAll_spec f s entries fault) trivial
          (s := (⟨{}, Store.new client, token, d, now⟩, ⟨0, 0, 0, 0, []⟩))
        simp only [importFile, hf, hr, hd, bind, Except.bind, pure, Except.pure]
        split at hrun
        · rename_i hok
          rw [hok]
          trivial
        · rename_i herr
          rw [herr]
          rcases hrun with hends | ⟨rfl, hparse⟩
          · exact .of_endsImport hends
          · exact .fault hf hr hparse

/-- A series whose name is a number and that has tags makes its step fail with a failure outside
the import's own, and the import ends with it rather than counting the unit. -/
theorem import_ends_at_foreign_failure :
    (match (importFile { format := .str "jsoni", database := .str "db" }
        ⟨"s.json", some ("\x7b\"series\":[\x7b\"name\":1,\"tags\":\x7b\"t\":\"x\"\x7d," ++
          "\"columns\":[\"time\",\"v\"],\"values\":[[1,2]]\x7d]\x7d").toUTF8.data⟩
        (Script.client ⟨true, true, [], [], [], none, [], none⟩) ⟨false, false⟩ 0).1 with
      | .error e =>
        !e.isImportFailure && e.message == "unsupported operand type(s) for +=: 'int' and 'str'"
      | .ok _ => false) = true := by
  decide +kernel

end SeriesImport
