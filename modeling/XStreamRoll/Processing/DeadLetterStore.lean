/-
`FileDeadLetterStore`: the dead letters of a worker, in one JSON file.

Every `record()` reads the whole file, changes one entry and writes the file back
through a temporary file and a rename.  What keeps two of them from overlapping is
a chain of promises: a call hangs its work on the promise of the call before, and
runs it whether that one was fulfilled or rejected.  A call is therefore a job here,
which may begin once the job before it has settled, and then takes one step for each
of its file operations.  Each of these may fail, and the job is then rejected.

The file holds what `JSON.parse` makes of its text, or a text that it refuses.
-/
import Mathlib.Data.List.AList
import XStreamRoll.Heap
import XStreamRoll.Json
import XStreamRoll.Processing.Session
import XStreamRoll.Transition

namespace XStreamRoll
namespace Processing

open Transition

variable {Data : Type}

structure DeadLetterRecord (Data : Type) where
  key : String
  streamId : String
  event : StreamEvent Data
  error : String
  attemptCount : Nat
  timestamp : String
deriving DecidableEq, Repr

/-- `Record<string, DeadLetterRecord>` -/
abbrev Records (Data : Type) := AList fun _ : String => DeadLetterRecord Data

/-! ## Keys -/

mutual

def stableStringify : Json → String
  | .null => "null"
  | .bool b => if b then "true" else "false"
  | .number text => text
  | .string s => Json.quote s
  | .array items => "[" ++ ",".intercalate (stableItems items) ++ "]"
  | .object fields =>
    let sorted := (stableFields fields).mergeSort fun a b => !Json.before b.1 a.1
    Json.inBraces (",".intercalate (sorted.map (·.2)))

def stableItems : List Json → List String
  | [] => []
  | item :: items => stableStringify item :: stableItems items

/-- Each key with the text of its field. -/
def stableFields : List (String × Json) → List (String × String)
  | [] => []
  | (key, value) :: fields =>
    (key, Json.quote key ++ ":" ++ stableStringify value) :: stableFields fields

end

/-- What the keys rely on. -/
structure EventHash (Data : Type) where
  /-- the `data` of an event as the JSON value that it is -/
  json : Data → Json
  /-- `createHash("sha256")`, in hexadecimal -/
  sha256 : String → String

/-- The event as `JSON.parse` delivered it. -/
def EventHash.eventJson (p : EventHash Data) (event : StreamEvent Data) : Json :=
  .object ((event.id.map fun id => ("id", Json.string id)).toList ++
    [("streamId", .string event.streamId), ("data", p.json event.data),
      ("timestamp", .string event.timestamp.text)])

def EventHash.eventKey (p : EventHash Data) (event : StreamEvent Data) : String :=
  match event.id with
  | none | some "" => p.sha256 (stableStringify (p.eventJson event))
  | some id => event.streamId ++ ":" ++ id

/-! ## The store -/

/-- The arguments of a call of `record()`. -/
structure Failure (Data : Type) where
  event : StreamEvent Data
  error : String
  attempts : Nat

/-- How far the work of a call has come. -/
inductive JobStage (Data : Type) where
  /-- the promise of the call before has not settled, or this one has not begun -/
  | waiting
  /-- the records are read and changed, `mkdir` is under way -/
  | changed (now : Date) (records : Records Data)
  /-- `writeFile` of the temporary file is under way -/
  | writing (now : Date) (records : Records Data)
  /-- `rename` is under way -/
  | renaming (now : Date)
  | fulfilled (now : Date)
  | rejected

def JobStage.settled : JobStage Data → Bool
  | .fulfilled _ | .rejected => true
  | _ => false

structure Job (Data : Type) where
  failure : Failure Data
  stage : JobStage Data

/-- What `JSON.parse` makes of a text, `none` when it throws. -/
abbrev Document (Data : Type) := Option (Records Data)

structure FileDeadLetterStore (Data : Type) where
  /-- `none` is `ENOENT`. -/
  file : Option (Document Data)
  /-- the file under `temporaryPath` -/
  temporary : Option (Document Data)
  /-- the calls of `record()`, which chain one promise behind the other -/
  jobs : List (Job Data)

namespace FileDeadLetterStore

def initial (file temporary : Option (Document Data)) : FileDeadLetterStore Data :=
  ⟨file, temporary, []⟩

/-- The change of one entry. -/
def change (p : EventHash Data) (now : Date) (failure : Failure Data) (records : Records Data) :
    Records Data :=
  let key := p.eventKey failure.event
  match records.lookup key with
  | some existing => records.insert key { existing with
      error := failure.error, attemptCount := failure.attempts, timestamp := now.toISOString }
  | none => records.insert key
      ⟨key, failure.event.streamId, failure.event, failure.error, failure.attempts,
        now.toISOString⟩

/-- `readRecords()`, when the file can be read at all. -/
def readRecords (s : FileDeadLetterStore Data) : Option (Records Data) :=
  match s.file with
  | none => some ∅
  | some document => document

/-- The promise that the `i`-th call chained its work behind has settled. -/
def previousSettled (i : Nat) (s : FileDeadLetterStore Data) : Bool :=
  i = 0 || (s.jobs[i - 1]?).any fun job => job.stage.settled

def setStage (i : Nat) (stage : JobStage Data) (s : FileDeadLetterStore Data) :
    FileDeadLetterStore Data :=
  { s with jobs := s.jobs.modify i fun job => { job with stage } }

/-- The `i`-th call reads the file.  `ok` is false when `readFile` fails with something
other than `ENOENT`. -/
def read (p : EventHash Data) (now : Date) (i : Nat) (ok : Bool) (s : FileDeadLetterStore Data) :
    Option (FileDeadLetterStore Data) :=
  match s.jobs[i]? with
  | some ⟨failure, .waiting⟩ =>
    if s.previousSettled i then
      match s.readRecords with
      | some records =>
        if ok then some (s.setStage i (.changed now (change p now failure records)))
        else some (s.setStage i .rejected)
      | none => some (s.setStage i .rejected)
    else none
  | _ => none

def mkdir (i : Nat) (ok : Bool) (s : FileDeadLetterStore Data) :
    Option (FileDeadLetterStore Data) :=
  match s.jobs[i]? with
  | some ⟨_, .changed now records⟩ =>
    if ok then some (s.setStage i (.writing now records)) else some (s.setStage i .rejected)
  | _ => none

/-- `writeFile(temporaryPath, …)`.  A write that fails may leave anything there. -/
def writeFile (i : Nat) (fate : Except (Option (Document Data)) Unit)
    (s : FileDeadLetterStore Data) : Option (FileDeadLetterStore Data) :=
  match s.jobs[i]? with
  | some ⟨_, .writing now records⟩ =>
    match fate with
    | .ok () => some ({ s with temporary := some (some records) }.setStage i (.renaming now))
    | .error leftover => some ({ s with temporary := leftover }.setStage i .rejected)
  | _ => none

/-- `rename(temporaryPath, filePath)` -/
def rename (i : Nat) (ok : Bool) (s : FileDeadLetterStore Data) :
    Option (FileDeadLetterStore Data) :=
  match s.jobs[i]? with
  | some ⟨_, .renaming now⟩ =>
    match ok, s.temporary with
    | true, some document =>
      some ({ s with file := some document, temporary := none }.setStage i (.fulfilled now))
    | _, _ => some (s.setStage i .rejected)
  | _ => none

inductive Action (Data : Type) where
  | record (failure : Failure Data)
  | read (now : Date) (i : Nat) (ok : Bool)
  | mkdir (i : Nat) (ok : Bool)
  | writeFile (i : Nat) (fate : Except (Option (Document Data)) Unit)
  | rename (i : Nat) (ok : Bool)

def step (p : EventHash Data) (s : FileDeadLetterStore Data) :
    Action Data → Option (FileDeadLetterStore Data)
  | .record failure => some { s with jobs := s.jobs ++ [⟨failure, .waiting⟩] }
  | .read now i ok => s.read p now i ok
  | .mkdir i ok => s.mkdir i ok
  | .writeFile i fate => s.writeFile i fate
  | .rename i ok => s.rename i ok

end FileDeadLetterStore

end Processing
end XStreamRoll
