import ApiTypes.Shape.Collection

/-!
# Arrangement of names

Entries under names are put in another order by ranks of the names, which may
differ from place to place.  Sorting by ranks keeps the order of names of the
same rank, and brings distinct names into every order.
-/

namespace ApiTypes

open Shape (Step)

/-- The rank of each name in the named entries at each place, where a place is the way to it. -/
abbrev Ranks := List Step → Text → Nat

namespace Ranks

/-- Ranks that leave all entries where they are. -/
def still : Ranks := fun _ _ => 0

/-- The ranks at the places below one. -/
def under (ranks : Ranks) (step : Step) : Ranks := fun path => ranks (step :: path)

/-- The ranks of the names at the place itself. -/
def here (ranks : Ranks) : Text → Nat := ranks []

@[simp] theorem still_under (step : Step) : still.under step = still :=
  rfl

@[simp] theorem still_here (name : Text) : still.here name = 0 :=
  rfl

end Ranks

/-- Items in the order of the ranks of their names. -/
def arrange (rank : Text → Nat) (name : α → Text) (items : List α) : List α :=
  items.mergeSort fun first second => decide (rank (name first) ≤ rank (name second))

section Arrange

variable {α β : Type} {rank : Text → Nat}

theorem arrange_perm (rank : Text → Nat) (name : α → Text) (items : List α) :
    (arrange rank name items).Perm items :=
  List.mergeSort_perm _ _

theorem arrange_of_unmoved (unmoved : ∀ name, rank name = 0) (name : α → Text)
    (items : List α) : arrange rank name items = items := by
  apply List.mergeSort_of_pairwise
  simp [unmoved, List.pairwise_iff_forall_sublist]

/-- A change of the items that keeps their names may come before or after. -/
theorem map_arrange {name : α → Text} (otherName : β → Text) {change : α → β} {items : List α}
    (keeps : ∀ item ∈ items, otherName (change item) = name item) :
    (arrange rank name items).map change = arrange rank otherName (items.map change) := by
  apply List.map_mergeSort
  intro first firstMember second secondMember
  simp [keeps first firstMember, keeps second secondMember]

theorem pairwise_arrange (rank : Text → Nat) (name : α → Text) (items : List α) :
    (arrange rank name items).Pairwise fun first second =>
      rank (name first) ≤ rank (name second) := by
  have sorted : (arrange rank name items).Pairwise fun first second =>
      decide (rank (name first) ≤ rank (name second)) = true :=
    List.pairwise_mergeSort (by simp only [decide_eq_true_eq]; omega)
      (by simp only [Bool.or_eq_true, decide_eq_true_eq]; omega) items
  simpa only [decide_eq_true_eq] using sorted

/-- Items whose ranks grow are the arrangement of the same items in any order. -/
theorem arrange_eq_of_pairwise {name : α → Text} {items others : List α}
    (perm : others.Perm items)
    (ordered : others.Pairwise fun first second => rank (name first) < rank (name second)) :
    arrange rank name items = others := by
  refine List.Perm.eq_of_pairwise ?_ (pairwise_arrange rank name items)
    (ordered.imp Nat.le_of_lt) ((arrange_perm _ name items).trans perm.symm)
  intro first second firstMember secondMember up down
  have firstThere : first ∈ others :=
    perm.mem_iff.mpr ((arrange_perm _ name items).mem_iff.mp firstMember)
  -- Two places of one rank are one place.
  obtain ⟨here, hereInside, rfl⟩ := List.getElem_of_mem firstThere
  obtain ⟨there, thereInside, rfl⟩ := List.getElem_of_mem secondMember
  rcases Nat.lt_trichotomy here there with before | rfl | after
  · have grows := List.pairwise_iff_getElem.mp ordered here there hereInside thereInside before
    omega
  · rfl
  · have grows := List.pairwise_iff_getElem.mp ordered there here thereInside hereInside after
    omega

/-- Ranks bring items with distinct names into every order. -/
theorem exists_arrange_eq {name : α → Text} {items others : List α} (perm : others.Perm items)
    (distinct : (items.map name).Nodup) : ∃ rank, arrange rank name items = others := by
  have othersDistinct : (others.map name).Nodup := (perm.map name).nodup_iff.mpr distinct
  refine ⟨fun text => (others.map name).idxOf text, arrange_eq_of_pairwise perm ?_⟩
  rw [List.pairwise_iff_getElem]
  intro first second firstInside secondInside before
  have atFirst := othersDistinct.idxOf_getElem first (by simpa using firstInside)
  have atSecond := othersDistinct.idxOf_getElem second (by simpa using secondInside)
  simp only [List.getElem_map] at atFirst atSecond
  omega

end Arrange

/-! ## Changes with the ranks at each place -/

section Changes

variable {α β : Type}

/-- A change of the items of a list, of which the first one has the given index. -/
def changeItems (change : Ranks → α → β) (ranks : Ranks) (index : Nat) : List α → List β
  | [] => []
  | item :: items =>
      change (ranks.under (.number index)) item :: changeItems change ranks (index + 1) items

/-- A change of the values under names. -/
def changeNamed (change : Ranks → α → β) (ranks : Ranks) (entries : List (Text × α)) :
    List (Text × β) :=
  entries.map fun (name, value) => (name, change (ranks.under (.name name)) value)

/-- A change of the values under names, which come in the order of their ranks. -/
def arrangeNamed (change : Ranks → α → β) (ranks : Ranks) (entries : List (Text × α)) :
    List (Text × β) :=
  arrange ranks.here Prod.fst (changeNamed change ranks entries)

theorem changeItems_still {change : Ranks → α → α} (keeps : ∀ item, change .still item = item)
    (index : Nat) (items : List α) : changeItems change .still index items = items := by
  induction items generalizing index with
  | nil => rfl
  | cons item items induction => simp [changeItems, keeps, induction]

theorem changeNamed_still {change : Ranks → α → α} (keeps : ∀ value, change .still value = value)
    (entries : List (Text × α)) : changeNamed change .still entries = entries := by
  simp [changeNamed, keeps]

theorem arrangeNamed_still {change : Ranks → α → α} (keeps : ∀ value, change .still value = value)
    (entries : List (Text × α)) : arrangeNamed change .still entries = entries := by
  rw [arrangeNamed, changeNamed_still keeps, arrange_of_unmoved Ranks.still_here]

end Changes

end ApiTypes
