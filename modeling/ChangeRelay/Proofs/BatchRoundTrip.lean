import ChangeRelay.Proofs.JsonRoundTrip
import ChangeRelay.Proofs.PathText
import ChangeRelay.Proofs.SnapshotFields
import ChangeRelay.Proofs.SnapshotMaking
import ChangeRelay.Sending

/-!
Batches are read back from the stream that they are written to. A batch is read back from its
record, and the record of a message from the message's line. No line holds the end of another one,
so the stream falls into as many lines as messages were sent, in the same order.
-/
namespace ChangeRelay

open Validation (Checked)

namespace Validation

theorem items_map {α : Type} {read : Value → Checked α} {write : α → Value} {all : List α}
    (each : ∀ a ∈ all, read (write a) = .ok a) (index : Nat) :
    items read index (all.map write) = .ok all := by
  induction all generalizing index with
  | nil => rfl
  | cons a more ih =>
    have first := each a List.mem_cons_self
    have others := ih (fun b member => each b (List.mem_cons_of_mem _ member)) (index + 1)
    rw [List.map_cons, items, first, others]
    rfl

theorem nullOr_path {path : Option Path} (clean : ∀ p ∈ path, p.Clean) :
    nullOr Validation.path (Snapshot.optionalText (path.map Path.text)) = .ok path := by
  cases path with
  | none => rfl
  | some p =>
    have read : Path.parse p.text = p := by
      rw [Path.parse, Path.text, String.toList_ofList]
      exact Path.ofChars_chars (clean p rfl)
    simp only [Option.map_some, Snapshot.optionalText, nullOr, Validation.path, read]
    rfl

end Validation

namespace Snapshot

def Clean (snapshot : Snapshot) : Prop := ∀ path ∈ snapshot.localPath, path.Clean

theorem ofValue_toValue {snapshot : Snapshot} (clean : snapshot.Clean) :
    ofValue snapshot.toValue = .ok snapshot := by
  have charset := read_optionalText snapshot.charset
  have localPath := Validation.nullOr_path clean
  have content := read_optionalText snapshot.content
  have language := read_language snapshot.language
  rw [toValue, ofValue, ofRecord, namedFields_ok_iff]
  simp only [Validation.both_ok_iff]
  refine ⟨rfl, rfl, rfl, rfl, ?_, ?_, ?_, ?_, rfl⟩
  · exact (Validation.inStep_ok_iff _ _ _).mpr charset
  · exact (Validation.inStep_ok_iff _ _ _).mpr localPath
  · exact (Validation.inStep_ok_iff _ _ _).mpr content
  · exact (Validation.inStep_ok_iff _ _ _).mpr language

theorem toValue_finite (snapshot : Snapshot) : snapshot.toValue.isFinite = true := by
  have optional (text : Option String) : (optionalText text).isFinite = true := by
    cases text <;> rfl
  simp [toValue, Value.isFinite, Value.fieldsFinite, optional]

end Snapshot

namespace Batch

def Clean (batch : Batch) : Prop := ∀ snapshot ∈ batch.addedOrChanged, snapshot.Clean

theorem ofValue_ok_iff (fields : List (String × Value)) (batch : Batch) :
    ofValue (.record fields) = .ok batch ↔
      Validation.fieldUnder fields ("removedFiles", "removed_files") Validation.required
          (Validation.listOf Validation.text) = .ok batch.removed ∧
        Validation.fieldUnder fields ("addedOrChangedFiles", "added_or_changed_files")
          Validation.required (Validation.listOf Snapshot.ofValue) = .ok batch.addedOrChanged := by
  rw [← Validation.both_ok_iff, ofValue]
  cases Validation.both _ _ with
  | error faults => simp [Except.map]
  | ok read =>
    obtain ⟨removed, snapshots⟩ := read
    cases batch
    simp [Except.map]

theorem ofValue_toValue {batch : Batch} (clean : batch.Clean) :
    ofValue batch.toValue = .ok batch := by
  have texts : ∀ text ∈ batch.removed, Validation.text (.text text) = .ok text := by
    intro text member
    rfl
  have removed := Validation.items_map texts 0
  have snapshots := Validation.items_map
    (fun snapshot member => Snapshot.ofValue_toValue (clean snapshot member)) 0
  rw [toValue, ofValue_ok_iff]
  constructor
  · exact (Validation.inStep_ok_iff _ _ _).mpr removed
  · exact (Validation.inStep_ok_iff _ _ _).mpr snapshots

theorem toValue_finite (batch : Batch) : batch.toValue.isFinite = true := by
  have texts (text : String) : (Value.text text).isFinite = true := rfl
  have removed := Value.itemsFinite_map texts batch.removed
  have snapshots := Value.itemsFinite_map Snapshot.toValue_finite batch.addedOrChanged
  simp [toValue, Value.isFinite, Value.fieldsFinite, removed, snapshots]

end Batch

namespace Notification

def message (method : String) (params : Value) : Value :=
  .record [("jsonrpc", .text "2.0"), ("method", .text method), ("params", params)]

theorem line_read (notification : Notification)
    (finite : Value.fieldsFinite notification.params = true) :
    Json.parse? notification.line.toList =
      some (message notification.method (.record notification.params)) := by
  have whole : notification.toValue.isFinite = true := by
    simp [toValue, Value.isFinite, Value.fieldsFinite, finite]
  rw [line, Json.line, String.toList_ofList, Json.parse_printed whole]
  rfl

theorem line_single (notification : Notification) : '\n' ∉ notification.line.toList := by
  rw [line, Json.line, String.toList_ofList]
  exact Json.printed_not_newline notification.toValue

def send (method params : Value) : Checked (List Char) :=
  (make method params).map fun notification => notification.line.toList ++ ['\n']

theorem send_line (method : String) {params : List (String × Value)}
    (finite : Value.fieldsFinite params = true) :
    ∃ line, send (.text method) (.record params) = .ok (line ++ ['\n']) ∧ '\n' ∉ line ∧
      Json.parse? line = some (message method (.record params)) := by
  refine ⟨_, rfl, ?_, ?_⟩
  · exact line_single ⟨method, params⟩
  · exact line_read ⟨method, params⟩ finite

end Notification

theorem Text.pieces_lines {lines : List (List Char)} (single : ∀ line ∈ lines, '\n' ∉ line) :
    pieces '\n' (lines.flatMap (· ++ ['\n'])) = lines ++ [[]] := by
  induction lines with
  | nil => rfl
  | cons line more ih =>
    have others := ih fun later member => single later (List.mem_cons_of_mem _ member)
    rw [List.flatMap_cons, List.append_assoc, List.singleton_append,
      pieces_marked (single line List.mem_cons_self), others, List.cons_append]

/-- What a delivery adds to the stream of its receiver. -/
def Delivery.streamed : Delivery → List Char
  | .written line => line.toList ++ ['\n']
  | .kept _ | .noted => []

inductive Request where
  | update (batch : Batch)
  | notify (method : String) (params : List (String × Value))

namespace Request

def written : Request → Checked (List Char)
  | .update batch => .ok (Receiver.wire.style batch).streamed
  | .notify method params => Notification.send (.text method) (.record params)

def sent (stream : List Char) (request : Request) : Checked (List Char) :=
  request.written.map fun added => stream ++ added

/-- A request that JSON can tell: paths are spelled by texts, and numbers are finite. -/
def Tellable : Request → Prop
  | .update batch => batch.Clean
  | .notify _ params => Value.fieldsFinite params = true

/-- Whether a line is read as the request. -/
def ReadFrom (line : List Char) : Request → Prop
  | .update batch => ∃ params, Batch.ofValue params = .ok batch ∧
    Json.parse? line = some (Notification.message Notification.batchMethod params)
  | .notify method params =>
    Json.parse? line = some (Notification.message method (.record params))

theorem written_update (batch : Batch) : written (.update batch) =
    Notification.send (.text Notification.batchMethod) batch.toValue := rfl

theorem written_line {request : Request} (tellable : request.Tellable) :
    ∃ line, request.written = .ok (line ++ ['\n']) ∧ '\n' ∉ line ∧ request.ReadFrom line := by
  cases request with
  | update batch =>
    obtain ⟨line, written, single, read⟩ :=
      Notification.send_line Notification.batchMethod batch.toValue_finite
    rw [written_update]
    exact ⟨line, written, single, batch.toValue, Batch.ofValue_toValue tellable, read⟩
  | notify method params => exact Notification.send_line method tellable

theorem sent_lines {requests : List Request} (tellable : ∀ request ∈ requests, request.Tellable)
    (stream : List Char) : ∃ lines : List (List Char),
      requests.foldlM sent stream = .ok (stream ++ lines.flatMap (· ++ ['\n'])) ∧
        (∀ line ∈ lines, '\n' ∉ line) ∧
        List.Forall₂ (fun request line => request.ReadFrom line) requests lines := by
  induction requests generalizing stream with
  | nil =>
    refine ⟨[], ?_, ?_, .nil⟩
    · rw [List.flatMap_nil, List.append_nil]
      rfl
    · intro line member
      cases member
  | cons request rest ih =>
    obtain ⟨line, written, single, read⟩ := written_line (tellable request List.mem_cons_self)
    obtain ⟨lines, later, singles, others⟩ := ih
      (fun other member => tellable other (List.mem_cons_of_mem _ member))
      (stream ++ (line ++ ['\n']))
    refine ⟨line :: lines, ?_, ?_, .cons read others⟩
    · have first : sent stream request = .ok (stream ++ (line ++ ['\n'])) := by
        rw [sent, written]
        rfl
      rw [List.foldlM_cons, first, List.flatMap_cons]
      rw [List.append_assoc stream] at later
      exact later
    · intro other member
      rcases List.mem_cons.mp member with rfl | behind
      · exact single
      · exact singles other behind

/-- Requests are sent without fail, one line for each in their order, and read from their lines. -/
theorem sent_read_back (requests : List Request)
    (tellable : ∀ request ∈ requests, request.Tellable) :
    ∃ stream lines, requests.foldlM sent [] = .ok stream ∧
      Text.pieces '\n' stream = lines ++ [[]] ∧
      List.Forall₂ (fun request line => request.ReadFrom line) requests lines := by
  obtain ⟨lines, all, single, read⟩ := sent_lines tellable []
  exact ⟨_, lines, all, Text.pieces_lines single, read⟩

def sampleSnapshot : Snapshot :=
  ⟨"file:///w/a.c", "a \"b\".c", "scope\\app", true, none, some (.parse "/w//a.c"),
    some "int x;\r\n\t\x01", some .c, false⟩

def sampleRequests : List Request :=
  [.update ⟨["file:///w/old\n.c", ""], [sampleSnapshot]⟩,
    .notify "a\nb" [("size", .real (.ofDecimal true 25 (-1))), ("all", .list [.null, .int (-7)])],
    .update ⟨[], []⟩]

theorem sent_read_back_sample :
    (∀ request ∈ sampleRequests, request.Tellable) ∧
      ∃ stream first second third, sampleRequests.foldlM sent [] = .ok stream ∧
        Text.pieces '\n' stream = [first, second, third, []] ∧
        ReadFrom first (.update ⟨["file:///w/old\n.c", ""], [sampleSnapshot]⟩) := by
  have tellable : ∀ request ∈ sampleRequests, request.Tellable := by
    intro request member
    simp only [sampleRequests, List.mem_cons, List.not_mem_nil, or_false] at member
    rcases member with rfl | rfl | rfl
    · intro snapshot member path found
      rw [List.mem_singleton.mp member] at found
      cases found
      exact Path.parse_clean "/w//a.c"
    · unfold Tellable
      decide
    · intro snapshot member
      cases member
  refine ⟨tellable, ?_⟩
  obtain ⟨stream, lines, all, pieces, read⟩ := sent_read_back sampleRequests tellable
  obtain _ | ⟨one, _ | ⟨two, _ | ⟨three, _ | _⟩⟩⟩ := read
  exact ⟨stream, _, _, _, all, pieces, one⟩

end Request
end ChangeRelay
