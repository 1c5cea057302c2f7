import WorkflowEngine.Data.Comparison
import WorkflowEngine.Data.Sorting

/-!
# When a sort comes through

A sort that comes through keeps all items.  It does come through if any two of the items can be compared, and it has
compared every item with some other one, so that two items or more are all of one rank if only items of one rank can be
compared.  `Data.canSort_iff` says this of data.
-/

namespace WorkflowEngine.Sorting

variable {ε α κ : Type} {less : α → α → Except ε Bool}

/-! ## Sorts that come through -/

theorem insertAll_cons_eq_ok {sorted out : Array α} {item : α} {rest : List α}
    (inserted : insertAll less sorted (item :: rest) = .ok out) :
    ∃ index, place less item sorted (sorted.size + 1) 0 sorted.size = .ok index ∧
      insertAll less (sorted.insertIdxIfInBounds index item) rest = .ok out := by
  rw [insertAll] at inserted
  split at inserted
  · cases inserted
  · rename_i index found
    exact ⟨index, found, inserted⟩

theorem sortShort_eq_ok {items out : List α} (sorted : sortShort less items = .ok out) :
    ∃ run rest array, openingRun less items = .ok (run, rest) ∧ insertAll less run.toArray rest = .ok array ∧
      array.toList = out := by
  unfold sortShort at sorted
  split at sorted
  · cases sorted
  · rename_i run rest opened
    cases inserted : insertAll less run.toArray rest with
    | error e =>
        rw [inserted] at sorted
        cases sorted
    | ok array =>
        rw [inserted] at sorted
        cases sorted
        exact ⟨run, rest, array, opened, inserted, rfl⟩

/-- A long list is sorted in halves, which are merged. -/
theorem sortParts_eq_ok {fuel : Nat} {items out : List α} (sorted : sortParts less (fuel + 1) items = .ok out) :
    sortShort less items = .ok out ∨ 64 ≤ items.length ∧
      ∃ first second, sortParts less fuel (items.take (items.length / 2)) = .ok first ∧
        sortParts less fuel (items.drop (items.length / 2)) = .ok second ∧
        merge less items.length [] first second = .ok out := by
  rw [sortParts] at sorted
  split at sorted
  · exact .inl sorted
  · rename_i long
    dsimp only at sorted
    split at sorted
    · cases sorted
    · rename_i first front
      split at sorted
      · cases sorted
      · rename_i second back
        exact .inr ⟨Nat.le_of_not_lt long, first, second, front, back, sorted⟩

/-! ## All items are kept -/

theorem perm_of_openingRun {items run rest : List α} (opened : openingRun less items = .ok (run, rest)) :
    (run ++ rest).Perm items := by
  unfold openingRun at opened
  split at opened
  · rename_i a b others
    split at opened
    · cases opened
    · split at opened
      · cases opened
      · rename_i falling _ _ count _
        cases opened
        have front : (if falling = true then ((a :: b :: others).take count).reverse else (a :: b :: others).take count).Perm
            ((a :: b :: others).take count) := by
          split
          · exact List.reverse_perm _
          · exact List.Perm.refl _
        exact (front.append_right _).trans (List.Perm.of_eq (List.take_append_drop _ _))
  · cases opened
    rw [List.append_nil]

theorem place_le {item : α} {sorted : Array α} {fuel low high index : Nat}
    (found : place less item sorted fuel low high = .ok index) (le : low ≤ high) : index ≤ high := by
  induction fuel generalizing low high with
  | zero =>
      cases found
      exact le
  | succ fuel ih =>
      unfold place at found
      split at found
      · dsimp only at found
        split at found
        · cases found
          exact le
        · split at found
          · cases found
          · exact Nat.le_trans (ih found (by omega)) (by omega)
          · exact ih found (by omega)
      · cases found
        exact le

theorem perm_insertIdxIfInBounds {sorted : Array α} {index : Nat} (inside : index ≤ sorted.size) (item : α) :
    (sorted.insertIdxIfInBounds index item).toList.Perm (item :: sorted.toList) := by
  rw [Array.insertIdxIfInBounds, dif_pos inside, Array.toList_insertIdx]
  exact List.perm_insertIdx item sorted.toList (by simpa using inside)

theorem perm_of_insertAll {sorted out : Array α} {items : List α} (inserted : insertAll less sorted items = .ok out) :
    out.toList.Perm (sorted.toList ++ items) := by
  induction items generalizing sorted with
  | nil =>
      cases inserted
      rw [List.append_nil]
  | cons item rest ih =>
      obtain ⟨index, found, inserted⟩ := insertAll_cons_eq_ok inserted
      have one := perm_insertIdxIfInBounds (place_le found (Nat.zero_le _)) item
      exact (ih inserted).trans ((one.append_right rest).trans List.perm_middle.symm)

theorem perm_of_sortShort {items out : List α} (sorted : sortShort less items = .ok out) : out.Perm items := by
  obtain ⟨run, rest, array, opened, inserted, rfl⟩ := sortShort_eq_ok sorted
  exact (perm_of_insertAll inserted).trans (perm_of_openingRun opened)

theorem perm_of_merge {fuel : Nat} {done items others out : List α}
    (merged : merge less fuel done items others = .ok out) : out.Perm (done ++ (items ++ others)) := by
  fun_induction merge with
  | case1 done items others =>
      cases merged
      rw [List.append_assoc]
      exact (List.reverse_perm done).append_right _
  | case2 fuel done others =>
      cases merged
      exact (List.reverse_perm done).append_right _
  | case3 fuel done items =>
      cases merged
      rw [List.append_nil]
      exact (List.reverse_perm done).append_right _
  | case4 => cases merged
  | case5 fuel done a rest b others below ih =>
      have moved : (b :: ((a :: rest) ++ others)).Perm ((a :: rest) ++ b :: others) := List.perm_middle.symm
      exact (ih merged).trans (List.perm_middle.symm.trans (moved.append_left done))
  | case6 fuel done a rest b others below ih =>
      exact (ih merged).trans List.perm_middle.symm

theorem perm_of_sortParts {fuel : Nat} {items out : List α} (sorted : sortParts less fuel items = .ok out) :
    out.Perm items := by
  induction fuel generalizing items out with
  | zero => exact perm_of_sortShort sorted
  | succ fuel ih =>
      rcases sortParts_eq_ok sorted with short | ⟨-, first, second, front, back, merged⟩
      · exact perm_of_sortShort short
      · have parts := (ih front).append (ih back)
        rw [List.take_append_drop] at parts
        exact (perm_of_merge merged).trans parts

/-- What is sorted are the items in another order. -/
theorem perm_of_sort {items out : List α} (sorted : sort less items = .ok out) : out.Perm items :=
  perm_of_sortParts sorted

/-! ## Items that can be compared -/

section Total

variable {P : α → Prop} (total : ∀ a b, P a → P b → ∃ below, less a b = .ok below)
include total

theorem exists_runLength (falling : Bool) {last : α} (first : P last) (count : Nat) {rest : List α}
    (each : ∀ a ∈ rest, P a) : ∃ n, runLength less falling last count rest = .ok n := by
  induction rest generalizing last count with
  | nil => exact ⟨count, rfl⟩
  | cons next rest ih =>
      obtain ⟨following, each⟩ := List.forall_mem_cons.mp each
      obtain ⟨below, compared⟩ := total next last following first
      unfold runLength
      rw [compared]
      dsimp only
      split
      · exact ih following (count + 1) each
      · exact ⟨count, rfl⟩

theorem exists_openingRun {items : List α} (each : ∀ a ∈ items, P a) :
    ∃ run rest, openingRun less items = .ok (run, rest) := by
  unfold openingRun
  split
  · rename_i a b rest
    obtain ⟨first, each⟩ := List.forall_mem_cons.mp each
    obtain ⟨second, each⟩ := List.forall_mem_cons.mp each
    obtain ⟨falling, compared⟩ := total b a second first
    obtain ⟨count, counted⟩ := exists_runLength total falling second 2 each
    rw [compared]
    dsimp only
    rw [counted]
    exact ⟨_, _, rfl⟩
  · exact ⟨items, [], rfl⟩

theorem exists_place {item : α} (new : P item) {sorted : Array α} (each : ∀ a ∈ sorted, P a) (fuel low high : Nat) :
    ∃ index, place less item sorted fuel low high = .ok index := by
  induction fuel generalizing low high with
  | zero => exact ⟨low, rfl⟩
  | succ fuel ih =>
      unfold place
      split
      · dsimp only
        split
        · exact ⟨low, rfl⟩
        · rename_i other there
          obtain ⟨below, compared⟩ := total item other new (each other (Array.mem_of_getElem? there))
          rw [compared]
          cases below with
          | true => exact ih low _
          | false => exact ih _ high
      · exact ⟨low, rfl⟩

theorem exists_insertAll {sorted : Array α} {items : List α} (front : ∀ a ∈ sorted, P a) (back : ∀ a ∈ items, P a) :
    ∃ out, insertAll less sorted items = .ok out := by
  induction items generalizing sorted with
  | nil => exact ⟨sorted, rfl⟩
  | cons item rest ih =>
      obtain ⟨new, back⟩ := List.forall_mem_cons.mp back
      obtain ⟨index, found⟩ := exists_place total new front (sorted.size + 1) 0 sorted.size
      unfold insertAll
      rw [found]
      refine ih (fun a listed => ?_) back
      have inside := place_le found (Nat.zero_le _)
      rcases List.mem_cons.mp ((perm_insertIdxIfInBounds inside item).mem_iff.mp listed.val) with rfl | old
      · exact new
      · exact front a ⟨old⟩

theorem exists_sortShort {items : List α} (each : ∀ a ∈ items, P a) : ∃ out, sortShort less items = .ok out := by
  obtain ⟨run, rest, opened⟩ := exists_openingRun total each
  have kept : ∀ a ∈ run ++ rest, P a := fun a listed => each a ((perm_of_openingRun opened).mem_iff.mp listed)
  obtain ⟨front, back⟩ := List.forall_mem_append.mp kept
  obtain ⟨out, inserted⟩ := exists_insertAll total (fun a listed => front a (List.mem_toArray.mp listed)) back
  unfold sortShort
  rw [opened]
  dsimp only
  rw [inserted]
  exact ⟨_, rfl⟩

theorem exists_merge (fuel : Nat) (done : List α) {items others : List α} (left : ∀ a ∈ items, P a)
    (right : ∀ a ∈ others, P a) : ∃ out, merge less fuel done items others = .ok out := by
  fun_induction merge with
  | case1 => exact ⟨_, rfl⟩
  | case2 => exact ⟨_, rfl⟩
  | case3 => exact ⟨_, rfl⟩
  | case4 fuel done a rest b others e failed =>
      obtain ⟨below, compared⟩ := total b a (right b List.mem_cons_self) (left a List.mem_cons_self)
      rw [failed] at compared
      cases compared
  | case5 fuel done a rest b others below ih => exact ih left (List.forall_mem_cons.mp right).2
  | case6 fuel done a rest b others below ih => exact ih (List.forall_mem_cons.mp left).2 right

theorem exists_sortParts (fuel : Nat) {items : List α} (each : ∀ a ∈ items, P a) :
    ∃ out, sortParts less fuel items = .ok out := by
  induction fuel generalizing items with
  | zero => exact exists_sortShort total each
  | succ fuel ih =>
      unfold sortParts
      split
      · exact exists_sortShort total each
      · dsimp only
        obtain ⟨first, front⟩ := ih fun a listed => each a (List.mem_of_mem_take (i := items.length / 2) listed)
        obtain ⟨second, back⟩ := ih fun a listed => each a (List.mem_of_mem_drop (i := items.length / 2) listed)
        rw [front]
        dsimp only
        rw [back]
        exact exists_merge total items.length []
          (fun a listed => each a (List.mem_of_mem_take ((perm_of_sortParts front).mem_iff.mp listed)))
          (fun a listed => each a (List.mem_of_mem_drop ((perm_of_sortParts back).mem_iff.mp listed)))

/-- Items any two of which can be compared can be sorted. -/
theorem exists_sort {items : List α} (each : ∀ a ∈ items, P a) : ∃ out, sort less items = .ok out :=
  exists_sortParts total 64 each

end Total

/-! ## What was compared -/

section Ranks

variable {rank : α → Option κ} {k : κ}
  (ranks : ∀ a b below, less a b = .ok below → ∃ k, rank a = some k ∧ rank b = some k)
include ranks

theorem rank_of_compared {a b : α} {below : Bool} (compared : less a b = .ok below) (known : rank b = some k) :
    rank a = some k := by
  obtain ⟨k', first, second⟩ := ranks _ _ _ compared
  rw [first, ← second, known]

theorem rank_of_runLength {falling : Bool} {last : α} {count n : Nat} {rest : List α}
    (counted : runLength less falling last count rest = .ok n) (known : rank last = some k) :
    count ≤ n ∧ ∀ a ∈ rest.take (n - count), rank a = some k := by
  induction rest generalizing last count with
  | nil =>
      cases counted
      simp
  | cons next rest ih =>
      unfold runLength at counted
      split at counted
      · cases counted
      · rename_i below compared
        split at counted
        · have following : rank next = some k := rank_of_compared ranks compared known
          obtain ⟨more, each⟩ := ih counted following
          refine ⟨by omega, ?_⟩
          rw [show n - count = n - (count + 1) + 1 by omega, List.take_succ_cons]
          exact List.forall_mem_cons.mpr ⟨following, each⟩
        · cases counted
          simp

theorem rank_of_openingRun {a b : α} {items run rest : List α}
    (opened : openingRun less (a :: b :: items) = .ok (run, rest)) :
    ∃ k, run ≠ [] ∧ ∀ x ∈ run, rank x = some k := by
  unfold openingRun at opened
  dsimp only at opened
  split at opened
  · cases opened
  · rename_i falling compared
    obtain ⟨k, second, first⟩ := ranks _ _ _ compared
    split at opened
    · cases opened
    · rename_i count counted
      obtain ⟨two, each⟩ := rank_of_runLength ranks counted second
      have front : (a :: b :: items).take count = a :: b :: items.take (count - 2) := by
        rw [show count = count - 2 + 2 by omega, List.take_succ_cons, List.take_succ_cons, Nat.add_sub_cancel]
      have known : ∀ x ∈ a :: b :: items.take (count - 2), rank x = some k :=
        List.forall_mem_cons.mpr ⟨first, List.forall_mem_cons.mpr ⟨second, each⟩⟩
      cases opened
      refine ⟨k, ?_, ?_⟩
      · rw [front]
        cases falling <;> simp
      · rw [front]
        cases falling with
        | false => exact known
        | true => exact fun x listed => known x (List.mem_reverse.mp listed)

theorem rank_of_place {item : α} {sorted : Array α} (filled : 0 < sorted.size) (each : ∀ a ∈ sorted, rank a = some k)
    {fuel index : Nat} (found : place less item sorted (fuel + 1) 0 sorted.size = .ok index) : rank item = some k := by
  have inside : 0 + (sorted.size - 0) / 2 < sorted.size := by omega
  unfold place at found
  rw [if_pos filled] at found
  dsimp only at found
  rw [Array.getElem?_eq_getElem inside] at found
  dsimp only at found
  split at found
  · cases found
  · exact rank_of_compared ranks ‹_› (each _ (Array.getElem_mem inside))
  · exact rank_of_compared ranks ‹_› (each _ (Array.getElem_mem inside))

theorem rank_of_insertAll {sorted out : Array α} {items : List α} (inserted : insertAll less sorted items = .ok out)
    (filled : 0 < sorted.size) (each : ∀ a ∈ sorted, rank a = some k) : ∀ a ∈ items, rank a = some k := by
  induction items generalizing sorted with
  | nil => exact List.forall_mem_nil _
  | cons item rest ih =>
      obtain ⟨index, found, inserted⟩ := insertAll_cons_eq_ok inserted
      have new : rank item = some k := rank_of_place ranks filled each found
      have one := perm_insertIdxIfInBounds (place_le found (Nat.zero_le _)) item
      refine List.forall_mem_cons.mpr ⟨new, ih inserted ?_ fun a listed => ?_⟩
      · rw [← Array.length_toList, one.length_eq]
        exact Nat.succ_pos _
      · rcases List.mem_cons.mp (one.mem_iff.mp listed.val) with rfl | old
        · exact new
        · exact each a ⟨old⟩

theorem rank_of_sortShort {items out : List α} (sorted : sortShort less items = .ok out) (two : 2 ≤ items.length) :
    ∃ k, ∀ a ∈ items, rank a = some k := by
  obtain _ | ⟨a, _ | ⟨b, items⟩⟩ := items
  · simp at two
  · simp at two
  · obtain ⟨run, rest, array, opened, inserted, -⟩ := sortShort_eq_ok sorted
    obtain ⟨k, filled, front⟩ := rank_of_openingRun ranks opened
    have back := rank_of_insertAll ranks inserted (List.length_pos_iff.mpr filled)
      fun x listed => front x (List.mem_toArray.mp listed)
    exact ⟨k, fun x listed => List.forall_mem_append.mpr ⟨front, back⟩ x
      ((perm_of_openingRun opened).mem_iff.mpr listed)⟩

theorem rank_of_merge {fuel : Nat} {done out items others : List α} (merged : merge less fuel done items others = .ok out)
    (fueled : fuel ≠ 0) {a b : α} {first second : κ} (left : ∀ a ∈ items, rank a = some first)
    (right : ∀ b ∈ others, rank b = some second) (here : a ∈ items) (there : b ∈ others) : first = second := by
  obtain _ | fuel := fuel
  · exact absurd rfl fueled
  obtain _ | ⟨a', rest⟩ := items
  · cases here
  obtain _ | ⟨b', others⟩ := others
  · cases there
  unfold merge at merged
  have compared : ∃ below, less b' a' = .ok below := by
    split at merged
    · cases merged
    · exact ⟨_, ‹_›⟩
    · exact ⟨_, ‹_›⟩
  obtain ⟨below, compared⟩ := compared
  have same := rank_of_compared ranks compared (left a' List.mem_cons_self)
  rw [right b' List.mem_cons_self] at same
  exact (Option.some.inj same).symm

theorem rank_of_sortParts {fuel : Nat} {items out : List α} (sorted : sortParts less fuel items = .ok out)
    (two : 2 ≤ items.length) : ∃ k, ∀ a ∈ items, rank a = some k := by
  induction fuel generalizing items out with
  | zero => exact rank_of_sortShort ranks sorted two
  | succ fuel ih =>
      rcases sortParts_eq_ok sorted with short | ⟨long, first, second, front, back, merged⟩
      · exact rank_of_sortShort ranks short two
      · obtain ⟨k, left⟩ := ih front (by rw [List.length_take]; omega)
        obtain ⟨k', right⟩ := ih back (by rw [List.length_drop]; omega)
        have counts : first.length = items.length / 2 ∧ second.length = items.length - items.length / 2 := by
          rw [(perm_of_sortParts front).length_eq, (perm_of_sortParts back).length_eq, List.length_take,
            List.length_drop]
          exact ⟨by omega, rfl⟩
        obtain ⟨a, here⟩ := List.exists_mem_of_length_pos (l := first) (by omega)
        obtain ⟨b, there⟩ := List.exists_mem_of_length_pos (l := second) (by omega)
        obtain rfl := rank_of_merge ranks merged (by omega)
          (fun a listed => left a ((perm_of_sortParts front).mem_iff.mp listed))
          (fun b listed => right b ((perm_of_sortParts back).mem_iff.mp listed)) here there
        refine ⟨k, fun x listed => ?_⟩
        rw [← List.take_append_drop (items.length / 2) items] at listed
        exact List.forall_mem_append.mpr ⟨left, right⟩ x listed

/-- Two sorted items or more are all of one rank. -/
theorem rank_of_sort {items out : List α} (sorted : sort less items = .ok out) (two : 2 ≤ items.length) :
    ∃ k, ∀ a ∈ items, rank a = some k :=
  rank_of_sortParts ranks sorted two

end Ranks

end WorkflowEngine.Sorting

/-! ## Data in order -/

namespace WorkflowEngine.Data

/-- Data is ordered only with data of its rank. -/
inductive Rank where
  | text
  | bytes
  | number
  | list
  | tuple
  | set
deriving Repr, DecidableEq

/-- The rank of data that has an order. -/
def rank? : Data → Option Rank
  | .str _ => some .text
  | .bytes _ => some .bytes
  | .bool _ => some .number
  | .int _ => some .number
  | .float _ => some .number
  | .nan _ => some .number
  | .list _ => some .list
  | .tuple _ => some .tuple
  | .set _ => some .set
  | _ => none

/-- The order of data with this rank is that of its parts. -/
def Rank.HasParts : Rank → Prop
  | .list => True
  | .tuple => True
  | _ => False

theorem rank?_of_number? {d : Data} {n : Number} (known : d.number? = some n) (real : ∀ re im, n ≠ .complex re im) :
    d.rank? = some .number := by
  cases d with
  | complex re im => exact absurd (Option.some.inj known).symm (real re im)
  | bool => rfl
  | int => rfl
  | float => rfl
  | nan => rfl
  | _ => cases known

/-- Only data of one rank can be compared. -/
theorem rank?_of_compareBy {c : Comparison} {a b : Data} {below : Bool} (compared : compareBy c a b = .ok below) :
    ∃ k, a.rank? = some k ∧ b.rank? = some k := by
  unfold compareBy at compared
  split at compared
  · split at compared
    · exact ⟨.list, rfl, rfl⟩
    · cases compared
  · split at compared
    · exact ⟨.tuple, rfl, rfl⟩
    · cases compared
  · split at compared
    · exact ⟨.set, rfl, rfl⟩
    · cases compared
  · split at compared
    · exact ⟨.text, rfl, rfl⟩
    · cases compared
  · split at compared
    · exact ⟨.bytes, rfl, rfl⟩
    · cases compared
  · cases compared
  · rename_i plain
    split at compared
    · cases compared
    · rename_i m n real left right
      refine ⟨.number, rank?_of_number? left ?_, rank?_of_number? right fun re im same => real re im same⟩
      rintro re im rfl
      cases a <;> simp [number?] at left
      exact plain _ _ rfl
    · cases compared

/-- Data of one rank can be compared, unless the order is that of the parts. -/
theorem exists_compareBy (c : Comparison) {k : Rank} (whole : ¬ k.HasParts) {a b : Data} (left : a.rank? = some k)
    (right : b.rank? = some k) : ∃ below, compareBy c a b = .ok below := by
  cases k with
  | text =>
      cases a <;> cases left
      cases b <;> cases right
      exact ⟨_, rfl⟩
  | bytes =>
      cases a <;> cases left
      cases b <;> cases right
      exact ⟨_, rfl⟩
  | set =>
      cases a <;> cases left
      cases b <;> cases right
      exact ⟨_, rfl⟩
  | list => exact absurd trivial whole
  | tuple => exact absurd trivial whole
  | number =>
      cases a <;> cases left <;> cases b <;> cases right <;> simp only [compareBy, number?] <;> split <;> exact ⟨_, rfl⟩

variable {items : List Data}

/-- The items can be put in order. -/
def CanSort (items : List Data) : Prop :=
  ∃ ordered, Sorting.sort (compareBy .less) items = .ok ordered

theorem canSort_of_length_le (few : items.length ≤ 1) : CanSort items := by
  obtain _ | ⟨a, _ | ⟨b, rest⟩⟩ := items
  · exact ⟨[], rfl⟩
  · exact ⟨[a], rfl⟩
  · simp at few

/-- Items any two of which can be compared can be put in order. -/
theorem canSort_of_comparable (total : ∀ a ∈ items, ∀ b ∈ items, ∃ below, compareBy .less a b = .ok below) :
    CanSort items :=
  Sorting.exists_sort (P := (· ∈ items)) (fun a b left right => total a left b right) fun _ listed => listed

/-- Items are put in order only if they are all of one rank. -/
theorem CanSort.rank (sorts : CanSort items) : items.length ≤ 1 ∨ ∃ k, ∀ a ∈ items, a.rank? = some k := by
  obtain ⟨ordered, sorted⟩ := sorts
  rcases Nat.lt_or_ge items.length 2 with few | many
  · exact .inl (Nat.le_of_lt_succ few)
  · exact .inr (Sorting.rank_of_sort (fun _ _ _ compared => rank?_of_compareBy compared) sorted many)

/-- Items without parts whose order counts can be put in order exactly if they are all of one rank. -/
theorem canSort_iff (whole : ∀ a ∈ items, ∀ k, a.rank? = some k → ¬ k.HasParts) :
    CanSort items ↔ items.length ≤ 1 ∨ ∃ k, ∀ a ∈ items, a.rank? = some k := by
  refine ⟨CanSort.rank, ?_⟩
  rintro (few | ⟨k, same⟩)
  · exact canSort_of_length_le few
  · exact canSort_of_comparable fun a left b right =>
      exists_compareBy .less (whole a left k (same a left)) (same a left) (same b right)

end WorkflowEngine.Data
