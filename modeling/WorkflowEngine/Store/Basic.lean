/-!
# The store of records

A store keeps records, each with its log, under ids that are told apart.  A record that is final has a
deadline; once it is reached, the next reading of the record or the next new record removes it.  The
store does not look at the clock itself: whoever uses it says what time it is.
-/

namespace WorkflowEngine

/-- A record with its log, the latest line of which comes first. -/
structure Entry (τ ρ κ : Type) where
  id : String
  record : ρ
  log : List κ
  /-- When the record is to be removed; none as long as it is not final. -/
  deadline : Option τ
deriving Repr, Inhabited

/-- Records in the order in which they came, and how long they are kept once they are final. -/
structure Store (σ τ ρ κ : Type) where
  retention : σ
  entries : List (Entry τ ρ κ)
deriving Repr, Inhabited

/-- Why a record cannot be stored. -/
inductive StoreError where
  | taken (id : String)
deriving Repr, DecidableEq, Inhabited

/-- The message of a refusal to store a record. -/
def StoreError.message : StoreError → String
  | .taken id => "Execution " ++ id ++ " already exists"

namespace Entry

variable {τ ρ κ : Type}

/-- The record is not final. -/
def isActive (e : Entry τ ρ κ) : Bool :=
  e.deadline.isNone

/-- The deadline is reached. -/
def isDue [LE τ] [DecidableLE τ] (now : τ) (e : Entry τ ρ κ) : Bool :=
  match e.deadline with
  | some limit => decide (limit ≤ now)
  | none => false

end Entry

namespace Store

variable {σ τ ρ κ : Type}

/-- The store without records. -/
def empty (retention : σ) : Store σ τ ρ κ := ⟨retention, []⟩

/-- The number of entries, due ones among them. -/
def size (s : Store σ τ ρ κ) : Nat :=
  s.entries.length

/-- The entry under an id. -/
def find? (s : Store σ τ ρ κ) (id : String) : Option (Entry τ ρ κ) :=
  s.entries.find? fun e => e.id == id

/-- The ids of the records that are not final. -/
def active (s : Store σ τ ρ κ) : List String :=
  (s.entries.filter Entry.isActive).map Entry.id

/-- Changes the entry under an id, if there is one. -/
def change (s : Store σ τ ρ κ) (id : String) (f : Entry τ ρ κ → Entry τ ρ κ) : Store σ τ ρ κ :=
  { s with entries := s.entries.map fun e => if e.id == id then f e else e }

/-- Removes the entry under an id. -/
def remove (s : Store σ τ ρ κ) (id : String) : Store σ τ ρ κ :=
  { s with entries := s.entries.filter fun e => e.id != id }

/-- Removes the entry under an id, and says whether there was one. -/
def evict (s : Store σ τ ρ κ) (id : String) : Bool × Store σ τ ρ κ :=
  ((s.find? id).isSome, s.remove id)

/-- Writes a line into the log under an id; without an entry the line is lost. -/
def append (s : Store σ τ ρ κ) (id : String) (line : κ) : Store σ τ ρ κ :=
  s.change id fun e => { e with log := line :: e.log }

/-- Puts a record in the place of the one under an id. -/
def replace (s : Store σ τ ρ κ) (id : String) (record : ρ) : Store σ τ ρ κ :=
  s.change id fun e => { e with record := record }

/-- The record under an id is final until a deadline. -/
def finalize (s : Store σ τ ρ κ) (id : String) (deadline : τ) : Store σ τ ρ κ :=
  s.change id fun e => { e with deadline := some deadline }

variable [LE τ] [DecidableLE τ]

/-- Removes every entry that is due, and counts them. -/
def purge (s : Store σ τ ρ κ) (now : τ) : Nat × Store σ τ ρ κ :=
  let kept := s.entries.filter fun e => !e.isDue now
  (s.entries.length - kept.length, { s with entries := kept })

/-- Stores a record under an id that is not taken once due entries are gone. -/
def create (s : Store σ τ ρ κ) (now : τ) (id : String) (record : ρ) :
    Except StoreError Unit × Store σ τ ρ κ :=
  let s := (s.purge now).2
  if (s.find? id).isSome then (.error (.taken id), s)
  else (.ok (), { s with entries := s.entries ++ [⟨id, record, [], none⟩] })

/-- The entry under an id, which is removed instead where it is due. -/
def live? (s : Store σ τ ρ κ) (now : τ) (id : String) : Option (Entry τ ρ κ) × Store σ τ ρ κ :=
  match s.find? id with
  | none => (none, s)
  | some e => if e.isDue now then (none, s.remove id) else (some e, s)

/-- The record under an id. -/
def get? (s : Store σ τ ρ κ) (now : τ) (id : String) : Option ρ × Store σ τ ρ κ :=
  let (found, s) := s.live? now id
  (found.map Entry.record, s)

/-- The log under an id, which is empty where there is no entry. -/
def log (s : Store σ τ ρ κ) (now : τ) (id : String) : List κ × Store σ τ ρ κ :=
  let (found, s) := s.live? now id
  ((found.map fun e => e.log.reverse).getD [], s)

end Store

end WorkflowEngine
