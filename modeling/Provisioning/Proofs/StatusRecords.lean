import Provisioning.Proofs.Cutting
import Provisioning.Proofs.TargetCalls
import Provisioning.World.Replies

/-!
Status output as records. A record is a list of fields, written with commas between them and a
newline behind it; its state, if it tells one, is its fourth field. Every record is read on its own,
and one whose fields have no line end is read as what it tells. But a field is read right wherever
it stands only if it has none: each of the other line ends cuts a record in two as the newline
would.
-/
namespace Provisioning

variable {σ : Type}

namespace Machine

abbrev StatusRecord := List String

namespace StatusRecord

def told? : StatusRecord → Option String
  | _ :: _ :: "state" :: data :: _ => some data
  | _ => none

def text (r : StatusRecord) : List Char :=
  List.intercalate [','] (r.map String.toList) ++ ['\n']

end StatusRecord

/-- Records with commas between their fields, each on a line of its own. -/
def statusText (records : List StatusRecord) : String :=
  String.ofList (records.flatMap StatusRecord.text)

/-- A text that can stand in a field: the format has other spellings for these three characters. -/
def Plain (field : String) : Prop :=
  ',' ∉ field.toList ∧ '\n' ∉ field.toList ∧ '\r' ∉ field.toList

instance (field : String) : Decidable (Plain field) := inferInstanceAs (Decidable (_ ∧ _ ∧ _))

def Unbroken (field : String) : Prop := ∀ c ∈ field.toList, Text.isLineEnd c = false

instance (field : String) : Decidable (Unbroken field) :=
  List.decidableBAll (fun c => Text.isLineEnd c = false) field.toList

section Records

theorem stateField?_eq_told? (line : List Char) :
    stateField? line = StatusRecord.told? ((Text.fields ',' line).map String.ofList) := rfl

theorem stateOf_statusText (records : List StatusRecord) :
    stateOf (statusText records) =
      (Text.lines (records.flatMap StatusRecord.text)).findSome? stateField? := by
  rw [statusText]
  simp only [stateOf, String.toList_ofList]
  rfl

theorem lines_records (records : List StatusRecord) :
    Text.lines (records.flatMap StatusRecord.text) =
      records.flatMap fun r => Text.lines r.text := by
  induction records with
  | nil => rfl
  | cons r records ih =>
    rw [List.flatMap_cons, List.flatMap_cons, ← ih, StatusRecord.text, List.append_assoc]
    exact Text.lines_append_lineEnd rfl (by decide) _ _

/-- Every record is read on its own, up to the first that is read as one of a state. -/
theorem stateOf_records (records : List StatusRecord) :
    stateOf (statusText records) = records.findSome? fun r => stateOf (statusText [r]) := by
  have hsingle (r : StatusRecord) :
      stateOf (statusText [r]) = (Text.lines r.text).findSome? stateField? := by
    rw [stateOf_statusText, List.flatMap_singleton]
  simp only [hsingle]
  rw [stateOf_statusText, lines_records]
  induction records with
  | nil => rfl
  | cons r records ih =>
    rw [List.flatMap_cons, List.findSome?_append, ih, List.findSome?_cons]
    cases (Text.lines r.text).findSome? stateField? <;> rfl

theorem stateOf_unbroken {r : StatusRecord} (fields : ∀ f ∈ r, Plain f ∧ Unbroken f) :
    stateOf (statusText [r]) = r.told? := by
  have hletters : ∀ c ∈ List.intercalate [','] (r.map String.toList), Text.isLineEnd c = false := by
    refine Text.forall_mem_intercalate (p := fun c => Text.isLineEnd c = false) rfl fun f hf => ?_
    obtain ⟨field, hfield, rfl⟩ := List.mem_map.1 hf
    exact (fields field hfield).2
  rw [stateOf_statusText, List.flatMap_singleton, StatusRecord.text, Text.lines_of_forall hletters,
    List.findSome?_singleton, stateField?_eq_told?]
  cases r with
  | nil => rfl
  | cons f fs =>
    have hcommas : ∀ g ∈ (f :: fs).map String.toList, ',' ∉ g := by
      intro g hg
      obtain ⟨field, hfield, rfl⟩ := List.mem_map.1 hg
      exact (fields field hfield).1.1
    rw [Text.fields_eq_splitOn, List.splitOn_intercalate _ hcommas (by simp)]
    simp

theorem stateOf_of_unbroken {records : List StatusRecord}
    (fields : ∀ r ∈ records, ∀ f ∈ r, Plain f ∧ Unbroken f) :
    stateOf (statusText records) = records.findSome? StatusRecord.told? := by
  rw [stateOf_records]
  induction records with
  | nil => rfl
  | cons r records ih =>
    have hrest := ih fun q hq => fields q (List.mem_cons_of_mem r hq)
    rw [List.findSome?_cons, List.findSome?_cons, hrest,
      stateOf_unbroken (fields r List.mem_cons_self)]

theorem stateField?_of_count {line : List Char} (few : line.count ',' < 3) :
    stateField? line = none := by
  cases told : stateField? line with
  | none => rfl
  | some state =>
    obtain ⟨time, target, rest, hfields⟩ := stateField?_eq_some_iff.1 told
    have hlength := congrArg List.length hfields
    rw [List.length_map, Text.length_fields] at hlength
    simp only [List.length_cons] at hlength
    omega

def runningRecord (name : String) : StatusRecord := ["", name, "state", "running"]

theorem stateOf_runningRecord_of_broken {name : String} (plain : Plain name)
    (broken : ¬ Unbroken name) : stateOf (statusText [runningRecord name]) = none := by
  obtain ⟨e, he, ending⟩ : ∃ e ∈ name.toList, Text.isLineEnd e = true := by
    simpa [Unbroken] using broken
  obtain ⟨us, vs, hname⟩ := List.append_of_mem he
  have unpaired : e ≠ '\r' := fun h => plain.2.2 (h ▸ he)
  have hcommas : name.toList.count ',' = 0 := List.count_eq_zero.2 plain.1
  rw [hname, List.count_append, List.count_cons] at hcommas
  have htext : (runningRecord name).text =
      (',' :: us) ++ e :: (vs ++ ",state,running\n".toList) := by
    simp [StatusRecord.text, runningRecord, hname, List.intercalate_cons_cons]
  rw [stateOf_statusText, List.flatMap_singleton, htext, Text.lines_append_lineEnd ending unpaired,
    List.findSome?_eq_none_iff]
  intro line hline
  apply stateField?_of_count
  rcases List.mem_append.1 hline with hline | hline
  · have hcount := (Text.sublist_of_mem_lines hline).count_le ','
    simp only [List.count_append, List.count_cons, List.count_nil, beq_self_eq_true, if_true]
      at hcount
    omega
  · have hcount := (Text.sublist_of_mem_lines hline).count_le ','
    have htail : ",state,running\n".toList.count ',' = 2 := by decide
    rw [List.count_append, htail] at hcount
    omega

theorem reportsState_statusText {records : List StatusRecord} {state : String}
    (h : ∀ r ∈ records, ∀ f ∈ r, Plain f ∧ Unbroken f) :
    ReportsState (statusText records) state ↔
      records.findSome? StatusRecord.told? = some state := by
  rw [← stateOf_eq_some_iff, stateOf_of_unbroken h]

theorem answer_state {w : World σ} {m : Machine} {s : σ} {output : String}
    (reply : (w.start m.statusCall s).1 = .exited 0 output) :
    (m.state w s).answer = .ok (stateOf output) := by
  rw [state, w.run_bind_apply]
  simp [reply]

end Records

/-- What a machine says about its state in records is read record by record. A text can stand in any
field of any of them, and the state is still that of the first record that tells one, if and only if
there is no line end in it. -/
theorem state_of_records {field : String} (plain : Plain field) :
    (∀ (σ : Type) (w : World σ) (m : Machine) (s : σ) (records : List StatusRecord),
      (w.start m.statusCall s).1 = .exited 0 (statusText records) →
      (m.state w s).answer = .ok (records.findSome? fun r => stateOf (statusText [r]))) ∧
    (Unbroken field ↔
      ∀ records : List StatusRecord,
        (∀ r ∈ records, ∀ f ∈ r, f = field ∨ Plain f ∧ Unbroken f) →
        ∀ (σ : Type) (w : World σ) (m : Machine) (s : σ),
          (w.start m.statusCall s).1 = .exited 0 (statusText records) →
          (m.state w s).answer = .ok (records.findSome? StatusRecord.told?)) := by
  constructor
  · intro σ w m s records reply
    rw [answer_state reply, stateOf_records]
  · constructor
    · intro unbroken records fields σ w m s reply
      rw [answer_state reply, stateOf_of_unbroken]
      intro r hr f hf
      rcases fields r hr f hf with rfl | hfield
      · exact ⟨plain, unbroken⟩
      · exact hfield
    · intro always
      by_contra broken
      have hfields : ∀ r ∈ [runningRecord field], ∀ f ∈ r, f = field ∨ Plain f ∧ Unbroken f := by
        intro r hr f hf
        obtain rfl := List.mem_singleton.1 hr
        have hothers : ∀ g ∈ ["", "state", "running"], Plain g ∧ Unbroken g := by decide
        have hmem : f = field ∨ f ∈ ["", "state", "running"] := by
          simpa [runningRecord, or_left_comm] using hf
        exact hmem.imp_right (hothers f)
      have htold := always _ hfields _ .replies ⟨"", "", none⟩
        [.exited 0 (statusText [runningRecord field])] rfl
      rw [answer_state rfl, stateOf_runningRecord_of_broken plain broken] at htold
      cases htold

def toldRecords : List StatusRecord := [
  ["1700000000", "default", "ui", "info", "Box ready"],
  ["1700000001", "default", "state", "poweroff", ""], ["", "default", "state", "running"]]

theorem state_of_toldRecords :
    (∀ r ∈ toldRecords, ∀ f ∈ r, f = "Box ready" ∨ Plain f ∧ Unbroken f) ∧
      Plain "Box ready" ∧ Unbroken "Box ready" ∧
      (state .replies ⟨"/srv/vm", "default", none⟩
        [.exited 0 (statusText toldRecords)]).answer = .ok (some "poweroff") := by
  have plain : Plain "Box ready" := by decide
  have unbroken : Unbroken "Box ready" := by decide
  have fields : ∀ r ∈ toldRecords, ∀ f ∈ r, f = "Box ready" ∨ Plain f ∧ Unbroken f := by decide
  refine ⟨fields, plain, unbroken, ?_⟩
  exact (state_of_records plain).2.1 unbroken toldRecords fields _ .replies
    ⟨"/srv/vm", "default", none⟩ [.exited 0 (statusText toldRecords)] rfl

def misreadRecords : List StatusRecord := [
  ["1700000000", "default", "ui", "info", "Box\u2028ready", "default", "state", "running"],
  ["1700000001", "default", "state", "poweroff"]]

/-- A message with a line separator in it makes a machine that is powered off count as running. -/
theorem misread_message :
    (∀ r ∈ misreadRecords, ∀ f ∈ r, Plain f) ∧
      misreadRecords.findSome? StatusRecord.told? = some "poweroff" ∧
      (state .replies ⟨"/srv/vm", "default", none⟩
        [.exited 0 (statusText misreadRecords)]).answer = .ok (some "running") := by
  refine ⟨by decide, rfl, ?_⟩
  rw [answer_state rfl]
  rfl

end Machine

end Provisioning
