import ChangeRelay.Json.Print
import ChangeRelay.Snapshot

/-!
A batch: all that one notification cycle tells the receiver. A notification is one line of JSON
with a method and its parameters; for a batch these are the batch itself as a record.
-/
namespace ChangeRelay

structure Batch where
  removed : List String
  addedOrChanged : List Snapshot
  deriving DecidableEq, Repr

namespace Batch

open Validation (Checked)

open Validation in
def ofValue : Value → Checked Batch
  | .record fields =>
    (both (fieldUnder fields ("removedFiles", "removed_files") required (listOf text))
      (fieldUnder fields ("addedOrChangedFiles", "added_or_changed_files") required
        (listOf Snapshot.ofValue))).map fun (removed, snapshots) => ⟨removed, snapshots⟩
  | _ => fail (.noModel "DidUpdateFileSystemParams")

def toValue (batch : Batch) : Value :=
  .record [("removedFiles", .list (batch.removed.map .text)),
    ("addedOrChangedFiles", .list (batch.addedOrChanged.map Snapshot.toValue))]

end Batch

structure Notification where
  method : String
  params : List (String × Value)
  deriving DecidableEq, Repr

namespace Notification

def batchMethod : String := "file/didUpdateFileSystem"

open Validation in
def make (method params : Value) : Checked Notification :=
  let record : Value → Checked (List (String × Value))
    | .record fields => .ok fields
    | _ => fail .noRecord
  (both (inStep (.field "method") (text method)) (inStep (.field "params") (record params))).map
    fun (method, params) => ⟨method, params⟩

def toValue (notification : Notification) : Value :=
  .record [("jsonrpc", .text "2.0"), ("method", .text notification.method),
    ("params", .record notification.params)]

def line (notification : Notification) : String := Json.line notification.toValue

def ofBatch (batch : Batch) : Notification :=
  ⟨batchMethod, match batch.toValue with
    | .record fields => fields
    | _ => []⟩

end Notification
end ChangeRelay
