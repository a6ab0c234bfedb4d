import Typings.Proofs.Json.Readers

/-! # What readers make of lists

A reader of lists accepts a list exactly if the reader of its items accepts every one of them. What
it makes of the list is what this one makes of the items, in order.
-/

namespace Typings.Json

/-- The items are these values and then the others. -/
inductive Items.Passes : Items → List Phrase → Items → Prop
  | nil (rest : Items) : Items.Passes rest [] rest
  | cons {node : Node} {v : Phrase} {items : Items} {vs : List Phrase} {rest : Items} :
      node.Shows v → items.Passes vs rest → Items.Passes (.item node items) (v :: vs) rest

theorem Items.Shows.passes {vs : List Phrase} {items : Items} (h : items.Shows vs) :
    items.Passes vs (.done .closed) := by
  induction vs generalizing items with
  | nil =>
      cases h
      exact .nil _
  | cons v vs ih =>
      cases h with
      | item hnode hitems => exact .cons hnode (ih hitems)

variable {α : Type} {reader : NodeReader α} {room : Nat}

theorem items_passes {vs : List Phrase} {as : List α}
    (haccepts : List.Forall₂ (reader.Accepts room) vs as) {items rest : Items}
    (hpasses : items.Passes vs rest) (index : Nat) :
    NodeReader.items reader room index items =
      (NodeReader.items reader room (index + vs.length) rest).map (as ++ ·) := by
  induction haccepts generalizing items index with
  | nil =>
      cases hpasses
      cases NodeReader.items reader room index rest <;> rfl
  | @cons v a vs as hv _ ih =>
      cases hpasses with
      | cons hnode hitems =>
          rw [NodeReader.items, hv _ hnode, ih hitems, List.length_cons, Nat.add_right_comm,
            Nat.add_assoc]
          cases NodeReader.items reader room (index + (vs.length + 1)) rest <;> rfl

theorem accepts_of_items (hplaceless : reader.Placeless) {vs : List Phrase} {items : Items}
    (hitems : items.Shows vs) {index : Nat} {as : List α}
    (hread : NodeReader.items reader room index items = .ok as) :
    List.Forall₂ (reader.Accepts room) vs as := by
  induction vs generalizing items index as with
  | nil =>
      cases hitems
      cases hread
      exact .nil
  | cons v vs ih =>
      cases hitems with
      | item hnode hrest =>
          obtain ⟨a, hfirst, hread⟩ := bind_eq_ok.mp hread
          obtain ⟨others, hothers, hread⟩ := bind_eq_ok.mp hread
          cases hread
          exact .cons (hplaceless hnode (within_eq_ok.mp hfirst)) (ih hrest hothers)

theorem accepts_list {vs : List Phrase} {as : List α}
    (h : List.Forall₂ (reader.Accepts room) vs as) :
    reader.list.Accepts (room + 1) (.list vs) as := by
  rintro _ (_ | ⟨_, hitems⟩)
  rw [NodeReader.list, items_passes h hitems.passes 0]
  simp [NodeReader.items, ListEnd.read, Except.map]

theorem accepts_list_iff (hplaceless : reader.Placeless) {vs : List Phrase} {as : List α} :
    reader.list.Accepts room (.list vs) as ↔
      ∃ inner, room = inner + 1 ∧ List.Forall₂ (reader.Accepts inner) vs as := by
  constructor
  · intro h
    obtain ⟨node, hnode⟩ := (Phrase.list vs).exists_node
    have hread := h node hnode
    cases hnode with
    | list bracket hitems =>
        cases room with
        | zero => cases hread
        | succ room => exact ⟨room, rfl, accepts_of_items hplaceless hitems hread⟩
  · rintro ⟨room, rfl, h⟩
    exact accepts_list h

/-- An item of a list, with the items around it. -/
theorem accepts_item_iff (hplaceless : reader.Placeless) {before after : List Phrase} {v : Phrase}
    {as : List α} :
    reader.list.Accepts room (.list (before ++ v :: after)) as ↔
      ∃ inner front a back, room = inner + 1 ∧ as = front ++ a :: back ∧
        List.Forall₂ (reader.Accepts inner) before front ∧ reader.Accepts inner v a ∧
        List.Forall₂ (reader.Accepts inner) after back := by
  rw [accepts_list_iff hplaceless]
  constructor
  · rintro ⟨inner, hroom, hitems⟩
    obtain ⟨front, _, rfl, hfront, hbehind⟩ := forall₂_append_left_iff.mp hitems
    obtain ⟨a, back, ha, hback, rfl⟩ := List.forall₂_cons_left_iff.mp hbehind
    exact ⟨inner, front, a, back, hroom, rfl, hfront, ha, hback⟩
  · rintro ⟨inner, front, a, back, hroom, rfl, hfront, ha, hback⟩
    exact ⟨inner, hroom, List.rel_append hfront (.cons ha hback)⟩

theorem placeless_list (hplaceless : reader.Placeless) : reader.list.Placeless := by
  intro room node v as hnode hread
  cases hnode with
  | scalar ht => cases hread
  | object => cases hread
  | list bracket hitems =>
      cases room with
      | zero => cases hread
      | succ room =>
          exact accepts_list (accepts_of_items hplaceless hitems hread)

theorem careful_items (hcareful : reader.Careful) : ∀ (items : Items) {index : Nat} {as : List α},
    NodeReader.items reader room index items = .ok as → items.skip = .ok ()
  | .done ending, _, _, hread => by
      obtain ⟨_, hending, _⟩ := map_eq_ok.mp hread
      exact ending.skip_of_read hending
  | .item node rest, _, _, hread => by
      obtain ⟨_, hfirst, hread⟩ := bind_eq_ok.mp hread
      obtain ⟨_, hothers, _⟩ := bind_eq_ok.mp hread
      simp [Items.skip, hcareful (within_eq_ok.mp hfirst), careful_items hcareful rest hothers,
        bind, Except.bind]

theorem careful_list (hcareful : reader.Careful) : reader.list.Careful := by
  intro room node as hread
  cases node with
  | leaf t => cases hread
  | object => cases hread
  | list bracket contents =>
      cases room with
      | zero => cases hread
      | succ room => exact careful_items hcareful contents hread

end Typings.Json
