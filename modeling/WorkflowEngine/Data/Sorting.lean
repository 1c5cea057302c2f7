/-!
# Sorting with a comparison that may fault

The sort is stable and asks only whether one item goes before another.  It first follows the rise or
fall that the list opens with, then puts every further item into its place by halving; long lists are
sorted in two parts and merged.  The first fault of a comparison ends the sort.
-/

namespace WorkflowEngine.Sorting

variable {ε α : Type}

/-- How many items, behind the one given, go on falling (or not falling) without a turn. -/
def runLength (less : α → α → Except ε Bool) (falling : Bool) (last : α) (count : Nat) :
    List α → Except ε Nat
  | [] => .ok count
  | next :: rest =>
    match less next last with
    | .error e => .error e
    | .ok below => if below == falling then runLength less falling next (count + 1) rest else .ok count

/-- The run that a list opens with, in rising order, and what follows it. -/
def openingRun (less : α → α → Except ε Bool) : List α → Except ε (List α × List α)
  | a :: b :: rest =>
    match less b a with
    | .error e => .error e
    | .ok falling =>
      match runLength less falling b 2 rest with
      | .error e => .error e
      | .ok count =>
        let run := (a :: b :: rest).take count
        .ok (if falling then run.reverse else run, (a :: b :: rest).drop count)
  | items => .ok (items, [])

/-- The place of an item among sorted ones, behind those equal to it, between two indexes. -/
def place (less : α → α → Except ε Bool) (item : α) (sorted : Array α) :
    Nat → Nat → Nat → Except ε Nat
  | 0, low, _ => .ok low
  | fuel + 1, low, high =>
    if low < high then
      let middle := low + (high - low) / 2
      match sorted[middle]? with
      | none => .ok low
      | some other =>
        match less item other with
        | .error e => .error e
        | .ok true => place less item sorted fuel low middle
        | .ok false => place less item sorted fuel (middle + 1) high
    else .ok low

/-- Puts items one after the other into a sorted array. -/
def insertAll (less : α → α → Except ε Bool) (sorted : Array α) : List α → Except ε (Array α)
  | [] => .ok sorted
  | item :: rest =>
    match place less item sorted (sorted.size + 1) 0 sorted.size with
    | .error e => .error e
    | .ok index => insertAll less (sorted.insertIdxIfInBounds index item) rest

/-- Sorts a short list. -/
def sortShort (less : α → α → Except ε Bool) (items : List α) : Except ε (List α) :=
  match openingRun less items with
  | .error e => .error e
  | .ok (run, rest) => (insertAll less run.toArray rest).map Array.toList

/-- Merges two sorted lists; of equal items those of the first list come first. -/
def merge (less : α → α → Except ε Bool) : Nat → List α → List α → List α → Except ε (List α)
  | 0, done, items, others => .ok (done.reverse ++ items ++ others)
  | _, done, [], others => .ok (done.reverse ++ others)
  | _, done, items, [] => .ok (done.reverse ++ items)
  | fuel + 1, done, a :: rest, b :: others =>
    match less b a with
    | .error e => .error e
    | .ok true => merge less fuel (b :: done) (a :: rest) others
    | .ok false => merge less fuel (a :: done) rest (b :: others)

/-- Sorts in halves down to short lists; the fuel bounds the halvings. -/
def sortParts (less : α → α → Except ε Bool) : Nat → List α → Except ε (List α)
  | 0, items => sortShort less items
  | fuel + 1, items =>
    if items.length < 64 then sortShort less items
    else
      let half := items.length / 2
      match sortParts less fuel (items.take half) with
      | .error e => .error e
      | .ok first =>
        match sortParts less fuel (items.drop half) with
        | .error e => .error e
        | .ok second => merge less items.length [] first second

/-- The items in rising order. -/
def sort (less : α → α → Except ε Bool) (items : List α) : Except ε (List α) :=
  sortParts less 64 items

end WorkflowEngine.Sorting
