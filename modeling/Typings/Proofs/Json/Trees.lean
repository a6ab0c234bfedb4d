import Typings.Proofs.Json.Pieces
import Typings.Proofs.Success

/-! # Trees of values

The tree of a text holds a value exactly where the text does: the tokens of a value give its tree,
and a tree that can be skipped was read from a value.
-/

namespace Typings.Json

mutual

/-- The node is the tree of the value. -/
inductive Node.Shows : Node → Phrase → Prop
  | scalar {t : Token} {s : Scalar} : s.Shows t.lexeme → Node.Shows (.leaf t) (.scalar s)
  | list (bracket : Token) {items : Items} {vs : List Phrase} :
      items.Shows vs → Node.Shows (.list bracket items) (.list vs)
  | object (bracket : Token) {fields : Fields} {ms : Members} :
      fields.Shows ms → Node.Shows (.object bracket fields) (.object ms)

inductive Items.Shows : Items → List Phrase → Prop
  | closed : Items.Shows (.done .closed) []
  | item {node : Node} {v : Phrase} {items : Items} {vs : List Phrase} :
      node.Shows v → items.Shows vs → Items.Shows (.item node items) (v :: vs)

inductive Fields.Shows : Fields → Members → Prop
  | closed : Fields.Shows (.done .closed) []
  | field {t : Token} {key : TextLiteral} (colon : Token) {node : Node} {v : Phrase}
      {fields : Fields} {ms : Members} :
      (Scalar.text key).Shows t.lexeme → node.Shows v → fields.Shows ms →
      Fields.Shows (.field t colon node fields) ((key, v) :: ms)

end

/-! ## One token at a time -/

theorem Token.isMark_iff {t : Token} {m : Mark} : t.isMark m = true ↔ t.lexeme = .mark m := by
  rw [Token.isMark.eq_def]
  cases t.lexeme with
  | mark n => simpa using eq_comm
  | _ => simp

theorem Scalar.Shows.isMark {s : Scalar} {t : Token} (h : s.Shows t.lexeme) (m : Mark) :
    t.isMark m = false := by
  apply Bool.eq_false_iff.mpr
  intro hmark
  rw [Token.isMark_iff] at hmark
  rw [hmark] at h
  cases s with
  | null | boolean _ => cases h
  | number _ | text _ =>
      obtain ⟨_, hvalue, _⟩ := h
      cases hvalue

theorem isMark_of_lexeme {t : Token} {m : Mark} (h : t.lexeme = .mark m) (m' : Mark) :
    t.isMark m' = (m' == m) := by
  simp only [Token.isMark, h]

theorem isFinish_of_not_last {t : Token} (h : t.lexeme.isLast = false) : t.isFinish = false := by
  unfold Token.isFinish
  cases hlexeme : t.lexeme with
  | finish => rw [hlexeme] at h; cases h
  | _ => rfl

theorem readNode_scalar {t : Token} {s : Scalar} (h : s.Shows t.lexeme) (limit : Nat)
    (rest : List Token) : readNode (limit + 1) (t :: rest) = (.leaf t, rest) := by
  have hmark : ∀ m, t.lexeme ≠ .mark m := by
    intro m hm
    exact Bool.false_ne_true ((h.isMark m).symm.trans (Token.isMark_iff.mpr hm))
  simp only [readNode, h.isMark, h.not_last, Bool.false_eq_true, if_false]

theorem readNode_list {t : Token} (h : t.lexeme = .mark .openList) (limit : Nat)
    (rest : List Token) : readNode (limit + 1) (t :: rest) =
      (.list t (readItems limit true rest).1, (readItems limit true rest).2) := by
  rw [readNode, if_pos (Token.isMark_iff.mpr h)]

theorem readNode_object {t : Token} (h : t.lexeme = .mark .openObject) (limit : Nat)
    (rest : List Token) : readNode (limit + 1) (t :: rest) =
      (.object t (readFields limit true rest).1, (readFields limit true rest).2) := by
  rw [readNode, isMark_of_lexeme h, if_neg (by decide), if_pos (Token.isMark_iff.mpr h)]

theorem readItems_close {t : Token} (h : t.lexeme = .mark .closeList) (limit : Nat)
    (isFirst : Bool) (rest : List Token) :
    readItems (limit + 1) isFirst (t :: rest) = (.done .closed, rest) := by
  simp [readItems, Token.isMark_iff.mpr h]

/-- An item with the comma that is due before it. -/
theorem readItems_item (isFirst : Bool) {commas : List Token}
    (hcommas : ShownBy (separator isFirst) commas) {t : Token}
    (hclose : t.isMark .closeList = false) (hfinish : t.isFinish = false) (limit : Nat)
    (rest : List Token) :
    readItems (limit + 1) isFirst (commas ++ t :: rest) =
      (.item (readNode limit (t :: rest)).1
          (readItems limit false (readNode limit (t :: rest)).2).1,
        (readItems limit false (readNode limit (t :: rest)).2).2) := by
  cases isFirst with
  | true =>
      cases hcommas
      simp [readItems, hclose, hfinish]
  | false =>
      rcases hcommas with _ | ⟨hcomma, _ | _⟩
      simp [readItems, isMark_of_lexeme hcomma, hclose, hfinish]

theorem readFields_close {t : Token} (h : t.lexeme = .mark .closeObject) (limit : Nat)
    (isFirst : Bool) (rest : List Token) :
    readFields (limit + 1) isFirst (t :: rest) = (.done .closed, rest) := by
  simp [readFields, Token.isMark_iff.mpr h]

/-- A member with the comma that is due before it. -/
theorem readFields_field (isFirst : Bool) {commas : List Token}
    (hcommas : ShownBy (separator isFirst) commas) {key colon : Token}
    {value : Except Failure String} (hkey : key.lexeme = .text value)
    (hcolon : colon.lexeme = .mark .colon) (limit : Nat) (rest : List Token) :
    readFields (limit + 2) isFirst (commas ++ key :: colon :: rest) =
      (.field key colon (readNode limit rest).1
          (readFields limit false (readNode limit rest).2).1,
        (readFields limit false (readNode limit rest).2).2) := by
  have hmark : key.isMark .closeObject = false := by simp [Token.isMark, hkey]
  have htext : key.isText = true := by simp [Token.isText, hkey]
  have hfield : ∀ afterComma, readField (limit + 1) afterComma key (colon :: rest) =
      (.field key colon (readNode limit rest).1
          (readFields limit false (readNode limit rest).2).1,
        (readFields limit false (readNode limit rest).2).2) := by
    intro afterComma
    simp [readField, htext, isMark_of_lexeme hcolon]
  cases isFirst with
  | true =>
      cases hcommas
      simp [readFields, hmark, hfield]
  | false =>
      rcases hcommas with _ | ⟨hcomma, _ | _⟩
      simp [readFields, isMark_of_lexeme hcomma, hfield]

/-! ## The tree of a value -/

theorem forall₂_append_left_iff {α β : Type} {R : α → β → Prop} {xs ys : List α} {zs : List β} :
    List.Forall₂ R (xs ++ ys) zs ↔
      ∃ front back, zs = front ++ back ∧ List.Forall₂ R xs front ∧ List.Forall₂ R ys back := by
  constructor
  · intro h
    induction xs generalizing zs with
    | nil => exact ⟨[], zs, rfl, .nil, h⟩
    | cons x xs ih =>
        cases h with
        | cons hhead htail =>
            obtain ⟨front, back, rfl, hfront, hback⟩ := ih htail
            exact ⟨_ :: front, back, rfl, .cons hhead hfront, hback⟩
  · rintro ⟨front, back, rfl, hfront, hback⟩
    exact List.rel_append hfront hback

theorem ShownBy.bracketed {o c : Mark} {ps : List Piece} {ts : List Token}
    (h : ShownBy (.mark o :: (ps ++ [.mark c])) ts) :
    ∃ bracket inner close, ts = bracket :: (inner ++ [close]) ∧ bracket.lexeme = .mark o ∧
      ShownBy ps inner ∧ close.lexeme = .mark c := by
  obtain ⟨bracket, _, hopen, hbehind, rfl⟩ := List.forall₂_cons_left_iff.mp h
  obtain ⟨inner, _, rfl, hinner, hlast⟩ := forall₂_append_left_iff.mp hbehind
  obtain ⟨close, _, hclose, hnil, rfl⟩ := List.forall₂_cons_left_iff.mp hlast
  cases hnil
  exact ⟨bracket, inner, close, rfl, hopen, hinner, hclose⟩

/-- The first token of a value neither closes a list nor ends the text. -/
theorem ShownBy.head_phrase {v : Phrase} {ts : List Token} (h : ShownBy v.pieces ts) :
    ∃ t rest, ts = t :: rest ∧ t.isMark .closeList = false ∧ t.isFinish = false := by
  cases v with
  | scalar s =>
      rcases h with _ | ⟨hs, _ | _⟩
      exact ⟨_, [], rfl, hs.isMark _, isFinish_of_not_last hs.not_last⟩
  | list items =>
      rcases h with _ | ⟨hs, _⟩
      exact ⟨_, _, rfl, isMark_of_lexeme hs _, isFinish_of_not_last (Piece.Shows.not_last hs)⟩
  | object members =>
      rcases h with _ | ⟨hs, _⟩
      exact ⟨_, _, rfl, isMark_of_lexeme hs _, isFinish_of_not_last (Piece.Shows.not_last hs)⟩

mutual

/-- The tokens of a value are read as its tree, whatever tokens follow. -/
theorem readNode_phrase : ∀ (v : Phrase) {ts : List Token} (limit : Nat), ShownBy v.pieces ts →
    2 * ts.length ≤ limit → ∀ more,
    ∃ node, readNode limit (ts ++ more) = (node, more) ∧ node.Shows v
  | .scalar s, ts, limit, hts, hlimit, more => by
      obtain ⟨t, _, hs, hnil, rfl⟩ := List.forall₂_cons_left_iff.mp hts
      cases hnil
      obtain ⟨limit, rfl⟩ : ∃ n, limit = n + 1 := ⟨limit - 1, by simp at hlimit; omega⟩
      exact ⟨_, readNode_scalar hs limit more, .scalar hs⟩
  | .list vs, ts, limit, hts, hlimit, more => by
      obtain ⟨bracket, inner, close, rfl, hopen, hinner, hclose⟩ := ShownBy.bracketed hts
      simp only [List.length_cons, List.length_append, List.length_nil] at hlimit
      obtain ⟨limit, rfl⟩ : ∃ n, limit = n + 1 := ⟨limit - 1, by omega⟩
      obtain ⟨items, hread, hitems⟩ :=
        readItems_phrases vs limit hinner hclose (by omega) more
      refine ⟨_, ?_, .list bracket hitems⟩
      simp [readNode_list hopen, hread]
  | .object ms, ts, limit, hts, hlimit, more => by
      obtain ⟨bracket, inner, close, rfl, hopen, hinner, hclose⟩ := ShownBy.bracketed hts
      simp only [List.length_cons, List.length_append, List.length_nil] at hlimit
      obtain ⟨limit, rfl⟩ : ∃ n, limit = n + 1 := ⟨limit - 1, by omega⟩
      obtain ⟨fields, hread, hfields⟩ :=
        readFields_members ms limit hinner hclose (by omega) more
      refine ⟨_, ?_, .object bracket hfields⟩
      simp [readNode_object hopen, hread]

theorem readItems_phrases : ∀ (vs : List Phrase) {isFirst : Bool} {ts : List Token} {close : Token}
    (limit : Nat), ShownBy (itemPieces isFirst vs) ts → close.lexeme = .mark .closeList →
    2 * (ts.length + 1) ≤ limit → ∀ more,
    ∃ items, readItems limit isFirst (ts ++ close :: more) = (items, more) ∧ items.Shows vs
  | [], isFirst, ts, close, limit, hts, hclose, hlimit, more => by
      cases hts
      obtain ⟨limit, rfl⟩ : ∃ n, limit = n + 1 := ⟨limit - 1, by omega⟩
      exact ⟨_, readItems_close hclose limit isFirst more, .closed⟩
  | v :: vs, isFirst, ts, close, limit, hts, hclose, hlimit, more => by
      obtain ⟨commas, ts, rfl, hcommas, hts⟩ := forall₂_append_left_iff.mp hts
      obtain ⟨front, back, rfl, hfront, hback⟩ := forall₂_append_left_iff.mp hts
      obtain ⟨t, front, rfl, hnoclose, hnofinish⟩ := ShownBy.head_phrase hfront
      simp only [List.length_cons, List.length_append] at hlimit
      obtain ⟨limit, rfl⟩ : ∃ n, limit = n + 1 := ⟨limit - 1, by omega⟩
      obtain ⟨node, hnode, hshows⟩ := readNode_phrase v limit hfront
        (by simp only [List.length_cons]; omega) (back ++ close :: more)
      obtain ⟨items, hitems, hrest⟩ := readItems_phrases vs limit hback hclose (by omega)
        more
      refine ⟨_, ?_, .item hshows hrest⟩
      have hstep := readItems_item isFirst hcommas hnoclose hnofinish limit
        (front ++ (back ++ close :: more))
      rw [← List.cons_append, hnode, hitems] at hstep
      simpa using hstep

theorem readFields_members : ∀ (ms : Members) {isFirst : Bool} {ts : List Token}
    {close : Token} (limit : Nat), ShownBy (memberPieces isFirst ms) ts →
    close.lexeme = .mark .closeObject → 2 * (ts.length + 1) ≤ limit → ∀ more,
    ∃ fields, readFields limit isFirst (ts ++ close :: more) = (fields, more) ∧ fields.Shows ms
  | [], isFirst, ts, close, limit, hts, hclose, hlimit, more => by
      cases hts
      obtain ⟨limit, rfl⟩ : ∃ n, limit = n + 1 := ⟨limit - 1, by omega⟩
      exact ⟨_, readFields_close hclose limit isFirst more, .closed⟩
  | (key, v) :: ms, isFirst, ts, close, limit, hts, hclose, hlimit, more => by
      obtain ⟨commas, ts, rfl, hcommas, hmember⟩ := forall₂_append_left_iff.mp hts
      obtain ⟨name, _, hkey, hcolons, rfl⟩ := List.forall₂_cons_left_iff.mp hmember
      obtain ⟨colon, _, hcolon, hbehind, rfl⟩ := List.forall₂_cons_left_iff.mp hcolons
      obtain ⟨front, back, rfl, hfront, hback⟩ := forall₂_append_left_iff.mp hbehind
      simp only [List.length_cons, List.length_append] at hlimit
      obtain ⟨limit, rfl⟩ : ∃ n, limit = n + 2 := ⟨limit - 2, by omega⟩
      obtain ⟨node, hnode, hshows⟩ := readNode_phrase v limit hfront (by omega)
        (back ++ close :: more)
      obtain ⟨fields, hfields, hrest⟩ := readFields_members ms limit hback hclose (by omega)
        more
      obtain ⟨value, htext, _⟩ := id hkey
      refine ⟨_, ?_, .field colon hkey hshows hrest⟩
      have hstep := readFields_field isFirst hcommas htext hcolon limit
        (front ++ (back ++ close :: more))
      rw [hnode, hfields] at hstep
      simpa using hstep

end

/-! ## The value of a tree -/

/-- What stands between two places of a text are these pieces. -/
structure Cursor.Spans (c : Cursor) (ps : List Piece) (next : Cursor) : Prop where
  count : c.tokens.length = ps.length + next.tokens.length
  spaced : ∃ front, Spaced ps front ∧ c.rest = front ++ next.rest

theorem Cursor.Spans.append {c next last : Cursor} {ps qs : List Piece} (hfront : c.Spans ps next)
    (hback : next.Spans qs last) : c.Spans (ps ++ qs) last where
  count := by rw [hfront.count, hback.count, List.length_append, Nat.add_assoc]
  spaced := by
    obtain ⟨front, hfront, hrest⟩ := hfront.spaced
    obtain ⟨back, hback, hlast⟩ := hback.spaced
    exact ⟨front ++ back, hfront.append hback, by rw [hrest, hlast, List.append_assoc]⟩

theorem Cursor.exists_tokens (c : Cursor) : ∃ t rest, c.tokens = t :: rest := by
  rcases c.tokens_step with ⟨t, htokens, _⟩ | ⟨t, _, _, _, htokens, _⟩
  · exact ⟨t, [], htokens⟩
  · exact ⟨t, _, htokens⟩

theorem Cursor.spans_token {c : Cursor} {t : Token} {rest : List Token}
    (htokens : c.tokens = t :: rest) (hlast : t.lexeme.isLast = false) :
    ∃ x next, c.Spans [x] next ∧ rest = next.tokens ∧ x.Shows t.lexeme := by
  rcases c.tokens_step with ⟨t', htokens', hlast'⟩ |
    ⟨t', x, space, next, htokens', hx, hspace, hrest⟩
  · cases htokens.symm.trans htokens'
    exact absurd hlast' (by simp [hlast])
  · cases htokens.symm.trans htokens'
    refine ⟨x, next, ⟨?_, _, .cons x hspace .nil, ?_⟩, rfl, hx⟩
    · rw [htokens, List.length_cons, List.length_singleton, Nat.add_comm]
    · rw [hrest, List.append_nil, List.append_assoc]

theorem Cursor.spans_mark {c : Cursor} {t : Token} {rest : List Token} {m : Mark}
    (htokens : c.tokens = t :: rest) (hmark : t.lexeme = .mark m) :
    ∃ next, c.Spans [.mark m] next ∧ rest = next.tokens := by
  obtain ⟨x, next, hspans, hrest, hx⟩ := Cursor.spans_token htokens (by rw [hmark]; rfl)
  cases x with
  | mark m' =>
      obtain rfl : m' = m := by
        have hm : t.lexeme = .mark m' := hx
        rw [hmark] at hm
        cases hm
        rfl
      exact ⟨next, hspans, hrest⟩
  | scalar s => exact absurd (hx.isMark m) (by simp [Token.isMark_iff.mpr hmark])

theorem Cursor.spans_scalar {c : Cursor} {t : Token} {rest : List Token}
    (htokens : c.tokens = t :: rest) (hskip : t.skip = .ok ()) :
    ∃ s next, c.Spans [.scalar s] next ∧ rest = next.tokens ∧ s.Shows t.lexeme := by
  have hlast : t.lexeme.isLast = false := by
    rw [Token.skip] at hskip
    cases hlexeme : t.lexeme <;> simp [hlexeme, Lexeme.isLast] at hskip ⊢
  obtain ⟨x, next, hspans, hrest, hx⟩ := Cursor.spans_token htokens hlast
  cases x with
  | mark m => simp [Token.skip, show t.lexeme = .mark m from hx] at hskip
  | scalar s => exact ⟨s, next, hspans, hrest, hx⟩

theorem Cursor.spans_key {c : Cursor} {t : Token} {rest : List Token}
    (htokens : c.tokens = t :: rest) (htext : t.isText = true) (hskip : t.skip = .ok ()) :
    ∃ key next, c.Spans [.scalar (.text key)] next ∧ rest = next.tokens ∧
      (Scalar.text key).Shows t.lexeme := by
  obtain ⟨s, next, hspans, hrest, hs⟩ := Cursor.spans_scalar htokens hskip
  cases s with
  | text key => exact ⟨key, next, hspans, hrest, hs⟩
  | null => simp [Token.isText, show t.lexeme = .null from hs] at htext
  | boolean value => simp [Token.isText, show t.lexeme = .boolean value from hs] at htext
  | number n =>
      obtain ⟨value, hvalue, _⟩ := hs
      simp [Token.isText, hvalue] at htext

/-- A tree that can be skipped was read from a value, behind which the reading goes on. -/
def NodeSound (limit : Nat) : Prop :=
  ∀ c : Cursor, 2 * c.tokens.length ≤ limit → (readNode limit c.tokens).1.skip = .ok () →
    ∃ v next, c.Spans v.pieces next ∧ (readNode limit c.tokens).2 = next.tokens ∧
      (readNode limit c.tokens).1.Shows v

def ItemsSound (limit : Nat) : Prop :=
  ∀ (isFirst : Bool) (c : Cursor), 2 * c.tokens.length + 1 ≤ limit →
    (readItems limit isFirst c.tokens).1.skip = .ok () →
    ∃ vs next, c.Spans (itemPieces isFirst vs ++ [.mark .closeList]) next ∧
      (readItems limit isFirst c.tokens).2 = next.tokens ∧
      (readItems limit isFirst c.tokens).1.Shows vs

def FieldsSound (limit : Nat) : Prop :=
  ∀ (isFirst : Bool) (c : Cursor), 2 * c.tokens.length + 1 ≤ limit →
    (readFields limit isFirst c.tokens).1.skip = .ok () →
    ∃ ms next, c.Spans (memberPieces isFirst ms ++ [.mark .closeObject]) next ∧
      (readFields limit isFirst c.tokens).2 = next.tokens ∧
      (readFields limit isFirst c.tokens).1.Shows ms

/-- A member at its key, with the members behind it. -/
def FieldSound (limit : Nat) : Prop :=
  ∀ (afterComma : Bool) (c : Cursor) (t : Token) (rest : List Token), c.tokens = t :: rest →
    2 * c.tokens.length ≤ limit → (readField limit afterComma t rest).1.skip = .ok () →
    ∃ m ms next, c.Spans (memberPieces true (m :: ms) ++ [.mark .closeObject]) next ∧
      (readField limit afterComma t rest).2 = next.tokens ∧
      (readField limit afterComma t rest).1.Shows (m :: ms)

theorem Phrase.pieces_length_pos (v : Phrase) : 0 < v.pieces.length := by
  cases v <;> simp [pieces]

theorem items_of_item {limit : Nat} (hnode : NodeSound limit) (hitems : ItemsSound limit)
    {c : Cursor} (hlimit : 2 * c.tokens.length ≤ limit)
    (hskip : (Items.item (readNode limit c.tokens).1
      (readItems limit false (readNode limit c.tokens).2).1).skip = .ok ()) :
    ∃ v vs next, c.Spans (itemPieces true (v :: vs) ++ [.mark .closeList]) next ∧
      (readItems limit false (readNode limit c.tokens).2).2 = next.tokens ∧
      (Items.item (readNode limit c.tokens).1
        (readItems limit false (readNode limit c.tokens).2).1).Shows (v :: vs) := by
  obtain ⟨_, hfirst, hothers⟩ := bind_eq_ok.mp hskip
  obtain ⟨v, mid, hspans, hmid, hshows⟩ := hnode c hlimit hfirst
  rw [hmid] at hothers ⊢
  have hcount := hspans.count
  have hpos := v.pieces_length_pos
  obtain ⟨vs, next, hrest, hnext, hshowsRest⟩ := hitems false mid (by omega) hothers
  refine ⟨v, vs, next, ?_, hnext, .item hshows hshowsRest⟩
  simpa [itemPieces, separator] using hspans.append hrest

theorem readNode_leaf {t : Token} (hlist : t.lexeme ≠ .mark .openList)
    (hobject : t.lexeme ≠ .mark .openObject) (limit : Nat) (rest : List Token) :
    (readNode (limit + 1) (t :: rest)).1 = .leaf t := by
  simp only [readNode, Token.isMark_iff, hlist, hobject, if_false]
  split
  · rfl
  · split <;> rfl

theorem NodeSound.succ {limit : Nat} (hitems : ItemsSound limit) (hfields : FieldsSound limit) :
    NodeSound (limit + 1) := by
  intro c hlimit hskip
  obtain ⟨t, rest, htokens⟩ := c.exists_tokens
  rw [htokens] at hlimit hskip ⊢
  simp only [List.length_cons] at hlimit
  by_cases hlist : t.lexeme = .mark .openList
  · obtain ⟨mid, hopen, rfl⟩ := Cursor.spans_mark htokens hlist
    rw [readNode_list hlist] at hskip ⊢
    obtain ⟨vs, next, hinner, hnext, hshows⟩ := hitems true mid (by omega) hskip
    exact ⟨.list vs, next, hopen.append hinner, hnext, .list t hshows⟩
  by_cases hobject : t.lexeme = .mark .openObject
  · obtain ⟨mid, hopen, rfl⟩ := Cursor.spans_mark htokens hobject
    rw [readNode_object hobject] at hskip ⊢
    obtain ⟨ms, next, hinner, hnext, hshows⟩ := hfields true mid (by omega) hskip
    exact ⟨.object ms, next, hopen.append hinner, hnext, .object t hshows⟩
  · rw [readNode_leaf hlist hobject] at hskip
    obtain ⟨s, next, hspans, hrest, hs⟩ := Cursor.spans_scalar htokens hskip
    rw [readNode_scalar hs]
    exact ⟨.scalar s, next, hspans, hrest, .scalar hs⟩

theorem ItemsSound.succ {limit : Nat} (hnode : NodeSound limit) (hitems : ItemsSound limit) :
    ItemsSound (limit + 1) := by
  intro isFirst c hlimit hskip
  obtain ⟨t, rest, htokens⟩ := c.exists_tokens
  by_cases hclose : t.lexeme = .mark .closeList
  · obtain ⟨next, hspans, rfl⟩ := Cursor.spans_mark htokens hclose
    rw [htokens, readItems_close hclose]
    exact ⟨[], next, hspans, rfl, .closed⟩
  have hnoclose : t.isMark .closeList = false :=
    Bool.eq_false_iff.mpr fun h => hclose (Token.isMark_iff.mp h)
  cases isFirst with
  | true =>
      cases hfinish : t.isFinish with
      | true =>
          simp [htokens, readItems, hnoclose, hfinish, Items.skip, ListEnd.skip] at hskip
      | false =>
          have hstep := readItems_item true .nil hnoclose hfinish limit rest
          rw [List.nil_append, ← htokens] at hstep
          rw [hstep] at hskip ⊢
          obtain ⟨v, vs, next, hspans, hnext, hshows⟩ :=
            items_of_item hnode hitems (by omega) hskip
          exact ⟨v :: vs, next, hspans, hnext, hshows⟩
  | false =>
      by_cases hcomma : t.lexeme = .mark .comma
      · obtain ⟨mid, hspans, rfl⟩ := Cursor.spans_mark htokens hcomma
        obtain ⟨t', rest', hmid⟩ := mid.exists_tokens
        have hcount := hspans.count
        rw [htokens, hmid] at hskip ⊢
        by_cases hend : t'.isMark .closeList = true ∨ t'.isFinish = true
        · simp [readItems, hnoclose, Token.isMark_iff.mpr hcomma, hend, Items.skip, ListEnd.skip]
            at hskip
        simp only [not_or, Bool.not_eq_true] at hend
        have hstep := readItems_item false (.cons hcomma .nil) hend.1 hend.2 limit rest'
        rw [List.singleton_append, ← hmid] at hstep
        rw [← hmid] at hskip ⊢
        rw [hstep] at hskip ⊢
        obtain ⟨v, vs, next, hbehind, hnext, hshows⟩ :=
          items_of_item hnode hitems (by simp at hcount; omega) hskip
        exact ⟨v :: vs, next, hspans.append hbehind, hnext, hshows⟩
      · have hnocomma : t.isMark .comma = false :=
          Bool.eq_false_iff.mpr fun h => hcomma (Token.isMark_iff.mp h)
        simp [htokens, readItems, hnoclose, hnocomma, Items.skip, ListEnd.skip] at hskip

theorem FieldSound.succ {limit : Nat} (hnode : NodeSound limit) (hfields : FieldsSound limit) :
    FieldSound (limit + 1) := by
  intro afterComma c t rest htokens hlimit hskip
  cases htext : t.isText with
  | false => simp [readField, htext, Fields.skip, ObjectEnd.skip] at hskip
  | true =>
      -- whatever follows the key, the key is skipped first
      have hkeySkip : t.skip = .ok () := by
        simp only [readField, htext, if_true] at hskip
        split at hskip
        next colon rest =>
          split at hskip <;> exact (bind_eq_ok.mp hskip).choose_spec.1
        next => exact (bind_eq_ok.mp hskip).choose_spec.1
      obtain ⟨key, mid, hkey, rfl, hshowsKey⟩ := Cursor.spans_key htokens htext hkeySkip
      obtain ⟨colon, rest, hmid⟩ := mid.exists_tokens
      rw [hmid] at hskip ⊢
      by_cases hcolon : colon.lexeme = .mark .colon
      · obtain ⟨mid', hspansColon, rfl⟩ := Cursor.spans_mark hmid hcolon
        simp only [readField, htext, Token.isMark_iff.mpr hcolon, if_true] at hskip ⊢
        obtain ⟨_, _, hskip⟩ := bind_eq_ok.mp hskip
        obtain ⟨_, hvalueSkip, hskip⟩ := bind_eq_ok.mp hskip
        have hcountKey := hkey.count
        have hcountColon := hspansColon.count
        simp only [List.length_singleton] at hcountKey hcountColon
        obtain ⟨v, mid'', hvalue, hmid'', hshows⟩ := hnode mid' (by omega) hvalueSkip
        have hcountValue := hvalue.count
        rw [hmid''] at hskip ⊢
        obtain ⟨ms, next, hrest, hnext, hshowsRest⟩ := hfields false mid'' (by omega) hskip
        refine ⟨(key, v), ms, next, ?_, hnext, .field colon hshowsKey hshows hshowsRest⟩
        simpa [memberPieces, separator] using
          hkey.append (hspansColon.append (hvalue.append hrest))
      · have hnocolon : colon.isMark .colon = false :=
          Bool.eq_false_iff.mpr fun h => hcolon (Token.isMark_iff.mp h)
        simp [readField, htext, hnocolon, Fields.skip, ObjectEnd.skip, hkeySkip] at hskip
        cases hskip

theorem FieldsSound.succ {limit : Nat} (hfield : FieldSound limit) : FieldsSound (limit + 1) := by
  intro isFirst c hlimit hskip
  obtain ⟨t, rest, htokens⟩ := c.exists_tokens
  by_cases hclose : t.lexeme = .mark .closeObject
  · obtain ⟨next, hspans, rfl⟩ := Cursor.spans_mark htokens hclose
    rw [htokens, readFields_close hclose]
    exact ⟨[], next, hspans, rfl, .closed⟩
  have hnoclose : t.isMark .closeObject = false :=
    Bool.eq_false_iff.mpr fun h => hclose (Token.isMark_iff.mp h)
  cases isFirst with
  | true =>
      have hstep : readFields (limit + 1) true (t :: rest) = readField limit false t rest := by
        simp [readFields, hnoclose]
      rw [htokens, hstep] at hskip ⊢
      obtain ⟨m, ms, next, hspans, hnext, hshows⟩ := hfield false c t rest htokens (by omega) hskip
      exact ⟨m :: ms, next, hspans, hnext, hshows⟩
  | false =>
      by_cases hcomma : t.lexeme = .mark .comma
      · obtain ⟨mid, hspans, rfl⟩ := Cursor.spans_mark htokens hcomma
        obtain ⟨t', rest', hmid⟩ := mid.exists_tokens
        have hcount := hspans.count
        have hstep : readFields (limit + 1) false (t :: t' :: rest') =
            readField limit true t' rest' := by
          simp [readFields, hnoclose, Token.isMark_iff.mpr hcomma]
        rw [htokens, hmid, hstep] at hskip ⊢
        obtain ⟨m, ms, next, hbehind, hnext, hshows⟩ :=
          hfield true mid t' rest' hmid (by simp at hcount; omega) hskip
        exact ⟨m :: ms, next, hspans.append hbehind, hnext, hshows⟩
      · have hnocomma : t.isMark .comma = false :=
          Bool.eq_false_iff.mpr fun h => hcomma (Token.isMark_iff.mp h)
        rw [htokens] at hskip
        simp [readFields, hnoclose, hnocomma, Fields.skip, ObjectEnd.skip] at hskip

/-- The four readings call each other with a lower limit, which two for each token make up for. -/
theorem trees_sound (limit : Nat) :
    NodeSound limit ∧ ItemsSound limit ∧ FieldsSound limit ∧ FieldSound limit := by
  have hpos : ∀ c : Cursor, 0 < c.tokens.length := by
    intro c
    obtain ⟨t, rest, htokens⟩ := c.exists_tokens
    simp [htokens]
  induction limit with
  | zero =>
      refine ⟨fun c hlimit => ?_, fun _ c hlimit => ?_, fun _ c hlimit => ?_,
        fun _ c _ _ _ hlimit => ?_⟩
      all_goals
        have := hpos c
        omega
  | succ limit ih =>
      obtain ⟨hnode, hitems, hfields, hfield⟩ := ih
      exact ⟨.succ hitems hfields, .succ hnode hitems, .succ hfield, .succ hnode hfields⟩

/-! ## The document at the head of a text -/

/-- A text that begins with a value is read as its tree. -/
theorem readDocument_front {v : Phrase} {front : List Char} (hfront : v.WrittenAs front)
    {rest : List Char} (hend : PiecesEnd v.pieces rest) :
    ∃ node p, readDocument (front ++ rest) = (node, Cursor.tokens ⟨p, rest⟩) ∧ node.Shows v := by
  have hapart : Apart v.pieces := by
    simpa using v.apart_append .nil (by rintro x ⟨⟩)
  obtain ⟨ts, p, htokens, hshown⟩ := Spaced.tokens hfront hapart hend ⟨1, 0⟩
  obtain ⟨node, hread, hnode⟩ := readNode_phrase v (2 * (tokens (front ++ rest)).length + 2) hshown
    (by rw [tokens_eq, htokens, List.length_append]; omega) (Cursor.tokens ⟨p, rest⟩)
  refine ⟨node, p, ?_, hnode⟩
  rw [readDocument, ← hread, tokens_eq, htokens]

/-- If the tree of a text can be skipped, the text begins with its value. -/
theorem readDocument_sound {text : List Char} (hskip : (readDocument text).1.skip = .ok ()) :
    ∃ v front, ∃ next : Cursor, v.WrittenAs front ∧ text = front ++ next.rest ∧
      (readDocument text).2 = next.tokens ∧ (readDocument text).1.Shows v := by
  obtain ⟨v, next, hspans, hnext, hshows⟩ :=
    (trees_sound _).1 ⟨⟨1, 0⟩, text⟩ (by rw [tokens_eq]; omega) hskip
  obtain ⟨front, hfront, htext⟩ := hspans.spaced
  exact ⟨v, front, next, hfront, htext, hnext, hshows⟩

end Typings.Json
