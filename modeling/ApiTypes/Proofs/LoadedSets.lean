import ApiTypes.Proofs.Outcomes
import ApiTypes.Specification

/-!
# Sets in loaded data

The order in which a set yields its members is not told by the text that it is
loaded from.  What a text stands for does not depend on this order unless a set
with several members is in it.
-/

namespace ApiTypes

/-- Somewhere in the data there is a set with several members. -/
inductive Data.HoldsSet : Data → Prop
  | set {items : List Data} (several : 1 < items.length) : HoldsSet (.set items)
  | list {items : List Data} {item : Data} (member : item ∈ items) (holds : HoldsSet item) :
      HoldsSet (.list items)
  | tuple {items : List Data} {item : Data} (member : item ∈ items) (holds : HoldsSet item) :
      HoldsSet (.tuple items)
  | mapping {entries : List (Data × Data)} {entry : Data × Data} (member : entry ∈ entries)
      (holds : HoldsSet entry.2) : HoldsSet (.mapping entries)

/-- A set with several members can be loaded from the octets. -/
def Bytes.HoldsSet (bytes : Bytes) : Prop :=
  ∃ order text data, bytes.withoutMark.decode = .ok text ∧ loadText order text = .ok data ∧
    data.HoldsSet

namespace Yaml

/-- A set with at most one member yields its members in one order only. -/
theorem arrange_eq_of_not_several (order other : SetOrder) {number : Nat} {members : List Data}
    (few : ¬ 1 < (order.arrange number members).length) :
    other.arrange number members = order.arrange number members := by
  have perm := (other.perm number members).trans (order.perm number members).symm
  cases arranged : order.arrange number members with
  | nil =>
      rw [arranged] at perm
      exact perm.eq_nil
  | cons first rest =>
      cases rest with
      | nil =>
          rw [arranged] at perm
          exact perm.eq_singleton
      | cons second rest =>
          rw [arranged] at few
          simp at few

/-- The orders of sets matter only to data that holds one. -/
theorem assemble_eq_of_not_holdsSet (order other : SetOrder) {values : Array (Option Value)}
    {fuel : Nat} {path : Path} {number : Nat}
    (setless : ¬ (assemble order values fuel path number).HoldsSet) :
    assemble other values fuel path number = assemble order values fuel path number := by
  induction fuel generalizing path number with
  | zero => rfl
  | succ fuel induction =>
      unfold assemble at setless ⊢
      split at setless
      · rfl
      · rfl
      next collection _ =>
        split at setless
        · rfl
        · dsimp only at setless ⊢
          cases collection with
          | list items =>
              refine congrArg Data.list (List.map_congr_left fun item member => induction ?_)
              intro holds
              exact setless (.list (List.mem_map_of_mem member) holds)
          | pairs pairs =>
              refine congrArg Data.list (List.map_congr_left fun pair member => ?_)
              -- Both sides of a pair stand in a tuple that is one step further down the path.
              have holdsNone : ∀ side ∈ [pair.1, pair.2], ¬ (assemble order values fuel
                  (none :: some number :: path) side).HoldsSet := by
                intro side isSide holds
                apply setless
                apply Data.HoldsSet.list (List.mem_map_of_mem member)
                exact .tuple (List.mem_map_of_mem (f := assemble order values fuel _) isSide) holds
              rw [induction (holdsNone pair.1 (by simp)), induction (holdsNone pair.2 (by simp))]
          | set members =>
              refine congrArg Data.set (arrange_eq_of_not_several order other ?_)
              exact fun several => setless (.set several)
          | mapping entries =>
              refine congrArg Data.mapping (List.map_congr_left fun entry member => ?_)
              refine congrArg (Prod.mk entry.1.data) (induction ?_)
              intro holds
              exact setless (.mapping (List.mem_map_of_mem member) holds)

theorem Document.load_eq_of_not_holdsSet {order : SetOrder} (other : SetOrder)
    {document : Document} {data : Data} (loaded : document.load order = .ok data)
    (setless : ¬ data.HoldsSet) : document.load other = .ok data := by
  let start : Loading :=
    { document, values := Array.replicate document.nodes.size none, reached := [] }
  unfold Document.load at loaded ⊢
  cases reaching : (Loader.reach document.root).run start with
  | error fault => simp [start, reaching, bind, Except.bind] at loaded
  | ok reached =>
      cases filling : (Loader.fillLevels (document.nodes.size + 1)).run reached.2 with
      | error fault => simp [start, reaching, filling, bind, Except.bind] at loaded
      | ok filled =>
          simp only [start, reaching, filling, bind, Except.bind] at loaded ⊢
          obtain rfl := Except.ok.inj loaded
          exact congrArg Except.ok (assemble_eq_of_not_holdsSet order other setless)

theorem load_eq_of_not_holdsSet {order : SetOrder} (other : SetOrder) {text : Text} {data : Data}
    (loaded : load order text = .ok data) (setless : ¬ data.HoldsSet) :
    load other text = .ok data := by
  unfold load at loaded ⊢
  cases composed : Document.ofTokens (Token.ofText text) with
  | error fault => simp [composed, bind, Except.bind] at loaded
  | ok found =>
      simp only [composed, bind, Except.bind] at loaded ⊢
      cases found with
      | none => exact loaded
      | some document => exact document.load_eq_of_not_holdsSet other loaded setless

end Yaml

theorem loadText_eq_of_not_holdsSet {order : Yaml.SetOrder} (other : Yaml.SetOrder) {text : Text}
    {data : Data} (loaded : loadText order text = .ok data) (setless : ¬ data.HoldsSet) :
    loadText other text = .ok data := by
  unfold loadText at loaded ⊢
  split at loaded
  next brace => rwa [if_pos brace]
  next noBrace =>
    rw [if_neg noBrace]
    cases yaml : Yaml.load order text with
    | error fault =>
        rw [yaml] at loaded
        cases loaded
    | ok found =>
        rw [yaml] at loaded
        obtain rfl := Except.ok.inj loaded
        rw [Yaml.load_eq_of_not_holdsSet other yaml setless]
        rfl

/-- Two members are enough for two orders to be told apart. -/
example :
    let reversed : Yaml.SetOrder :=
      { arrange := fun _ members => members.reverse
        perm := fun _ members => members.reverse_perm }
    (loadText .given "!!set \x7bcat, dog\x7d").toOption.map Data.display ≠
      (loadText reversed "!!set \x7bcat, dog\x7d").toOption.map Data.display := by
  decide +kernel

/-- Octets without a set are the same specification for all orders of sets. -/
theorem Specification.ofBytes_of_not_holdsSet {order : Yaml.SetOrder} (other : Yaml.SetOrder)
    {bytes : Bytes} {specification : Specification} (setless : ¬ bytes.HoldsSet)
    (read : (ofBytes order bytes).outcome = .ok specification) :
    (ofBytes other bytes).outcome = .ok specification := by
  unfold ofBytes at read ⊢
  cases decoded : bytes.withoutMark.decode with
  | error fault =>
      rw [decoded] at read
      cases read
  | ok text =>
      simp only [decoded, ofText] at read ⊢
      cases loaded : loadText order text with
      | error fault =>
          rw [loaded] at read
          cases read
      | ok data =>
          have dataSetless : ¬ data.HoldsSet := by
            intro holds
            exact setless ⟨order, text, data, decoded, loaded, holds⟩
          rw [loaded] at read
          rwa [loadText_eq_of_not_holdsSet other loaded dataSetless]

end ApiTypes
