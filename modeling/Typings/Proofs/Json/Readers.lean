import Typings.Json.Record
import Typings.Proofs.Json.Trees

/-! # What readers make of values

A reader that succeeds has read a value, and what it makes of the value depends neither on how the
value is written nor on where it stands. This is so of the readers of texts, of booleans and of
values of any kind, and an optional value does not change it.
-/

namespace Typings.Json

/-! ## Trees of one value -/

theorem Scalar.exists_token (s : Scalar) : ∃ t : Token, s.Shows t.lexeme := by
  cases s with
  | null => exact ⟨⟨.null, {}, {}⟩, rfl⟩
  | boolean value => exact ⟨⟨.boolean value, {}, {}⟩, rfl⟩
  | number n =>
      exact ⟨⟨.number (numeralValue n.numeral {}), {}, {}⟩, _, rfl, numeralValue_toOption _ _⟩
  | text l => exact ⟨⟨.text _, {}, {}⟩, _, rfl, readText_denotes l {} []⟩

mutual

theorem Phrase.exists_node : ∀ v : Phrase, ∃ node : Node, node.Shows v
  | .scalar s => by
      obtain ⟨t, ht⟩ := s.exists_token
      exact ⟨.leaf t, .scalar ht⟩
  | .list vs => by
      obtain ⟨items, hitems⟩ := exists_items vs
      exact ⟨.list ⟨.mark .openList, {}, {}⟩ items, .list _ hitems⟩
  | .object ms => by
      obtain ⟨fields, hfields⟩ := exists_fields ms
      exact ⟨.object ⟨.mark .openObject, {}, {}⟩ fields, .object _ hfields⟩

theorem exists_items : ∀ vs : List Phrase, ∃ items : Items, items.Shows vs
  | [] => ⟨_, .closed⟩
  | v :: vs => by
      obtain ⟨node, hnode⟩ := v.exists_node
      obtain ⟨items, hitems⟩ := exists_items vs
      exact ⟨_, .item hnode hitems⟩

theorem exists_fields : ∀ ms : Members, ∃ fields : Fields, fields.Shows ms
  | [] => ⟨_, .closed⟩
  | (key, v) :: ms => by
      obtain ⟨t, ht⟩ := (Scalar.text key).exists_token
      obtain ⟨node, hnode⟩ := v.exists_node
      obtain ⟨fields, hfields⟩ := exists_fields ms
      exact ⟨_, .field ⟨.mark .colon, {}, {}⟩ ht hnode hfields⟩

end

theorem Scalar.Shows.skip {s : Scalar} {t : Token} (h : s.Shows t.lexeme) : t.skip = .ok () := by
  cases s with
  | null | boolean _ => simp [Token.skip, show t.lexeme = _ from h]
  | number _ | text _ =>
      obtain ⟨_, hvalue, _⟩ := h
      simp [Token.skip, hvalue]

mutual

theorem Node.Shows.skip : ∀ {v : Phrase} {node : Node}, node.Shows v → node.skip = .ok ()
  | .scalar _, _, .scalar h => h.skip
  | .list _, _, .list _ h => h.skip
  | .object _, _, .object _ h => h.skip

theorem Items.Shows.skip : ∀ {vs : List Phrase} {items : Items}, items.Shows vs →
    items.skip = .ok ()
  | _, _, .closed => rfl
  | _, _, .item hnode hitems => by simp [Items.skip, hnode.skip, hitems.skip, bind, Except.bind]

theorem Fields.Shows.skip : ∀ {ms : Members} {fields : Fields}, fields.Shows ms →
    fields.skip = .ok ()
  | _, _, .closed => rfl
  | _, _, .field _ hkey hnode hfields => by
      simp [Fields.skip, hkey.skip, hnode.skip, hfields.skip, bind, Except.bind]

end

theorem Token.readKey_iff {t : Token} {key : TextLiteral} (h : (Scalar.text key).Shows t.lexeme)
    {name : String} : t.readKey = .ok name ↔ key.Denotes name := by
  obtain ⟨value, hvalue, hdenotes⟩ := h
  rw [← hdenotes, Token.readKey, hvalue]
  cases value <;> simp

theorem Token.skip_of_readKey {t : Token} {name : String} (h : t.readKey = .ok name) :
    t.skip = .ok () := by
  rw [Token.readKey] at h
  split at h
  next hlexeme => simp [Token.skip, hlexeme]
  all_goals cases h

theorem ListEnd.skip_of_read {ending : ListEnd} {u : Unit} (h : ending.read = .ok u) :
    ending.skip = .ok () := by
  cases ending with
  | closed | cut => rfl
  | noSeparator | noItem => cases h

theorem ObjectEnd.skip_noColon {key : Token} {found : Option Token} {name : String} {u : Unit}
    (hname : key.readKey = .ok name) (hcolon : missingColon found = .ok u) :
    (noColon key found).skip = .ok () := by
  cases found with
  | none => simp [skip, Token.skip_of_readKey hname, bind, Except.bind]
  | some t => cases hcolon

def Phrase.IsNull : Phrase → Prop
  | .scalar .null => True
  | _ => False

theorem Node.Shows.isNull_iff {node : Node} {v : Phrase} (h : node.Shows v) :
    node.isNull = true ↔ v.IsNull := by
  cases h with
  | list | object => simp [Node.isNull, Phrase.IsNull]
  | @scalar t s ht =>
      cases s with
      | null | boolean _ => simp [Node.isNull, Phrase.IsNull, show t.lexeme = _ from ht]
      | number _ | text _ =>
          obtain ⟨_, hvalue, _⟩ := ht
          simp [Node.isNull, Phrase.IsNull, hvalue]

/-! ## Readers -/

namespace NodeReader

variable {α : Type}

/-- The reader makes this of the value, however it is written and wherever it stands. -/
def Accepts (reader : NodeReader α) (room : Nat) (v : Phrase) (a : α) : Prop :=
  ∀ node : Node, node.Shows v → reader room node = .ok a

/-- Whether the reader accepts a value does not depend on how it is written or where it stands. -/
def Placeless (reader : NodeReader α) : Prop :=
  ∀ {room : Nat} {node : Node} {v : Phrase} {a : α}, node.Shows v → reader room node = .ok a →
    reader.Accepts room v a

/-- The reader accepts nothing that is no value. -/
def Careful (reader : NodeReader α) : Prop :=
  ∀ {room : Nat} {node : Node} {a : α}, reader room node = .ok a → node.skip = .ok ()

end NodeReader

@[simp]
theorem within_eq_ok {α : Type} {step : Step} {x : Except Fault α} {a : α} :
    within step x = .ok a ↔ x = .ok a := by
  cases x <;> simp [within]

/-! ## Scalars -/

theorem text_eq_ok {room : Nat} {node : Node} {s : String} :
    NodeReader.text room node = .ok s ↔ ∃ t, node = .leaf t ∧ t.lexeme = .text (.ok s) := by
  constructor
  · intro h
    unfold NodeReader.text at h
    split at h
    next value start stop =>
      cases h
      exact ⟨_, rfl, rfl⟩
    next => cases h
  · rintro ⟨⟨_, start, stop⟩, rfl, rfl⟩
    rfl

theorem boolean_eq_ok {room : Nat} {node : Node} {b : Bool} :
    NodeReader.boolean room node = .ok b ↔ ∃ t, node = .leaf t ∧ t.lexeme = .boolean b := by
  constructor
  · intro h
    unfold NodeReader.boolean at h
    split at h
    next value start stop =>
      cases h
      exact ⟨_, rfl, rfl⟩
    next => cases h
  · rintro ⟨⟨_, start, stop⟩, rfl, rfl⟩
    rfl

theorem Scalar.Shows.text_iff {s : Scalar} {t : Token} (h : s.Shows t.lexeme) {a : String} :
    t.lexeme = .text (.ok a) ↔ ∃ l, s = .text l ∧ l.Denotes a := by
  cases s with
  | null | boolean _ => simp [show t.lexeme = _ from h]
  | number _ =>
      obtain ⟨_, hvalue, _⟩ := h
      simp [hvalue]
  | text l =>
      obtain ⟨value, hvalue, hdenotes⟩ := h
      simp [hvalue, hdenotes]

theorem Scalar.Shows.boolean_iff {s : Scalar} {t : Token} (h : s.Shows t.lexeme) {b : Bool} :
    t.lexeme = .boolean b ↔ s = .boolean b := by
  cases s with
  | null | boolean _ => simp [show t.lexeme = _ from h]
  | number _ | text _ =>
      obtain ⟨_, hvalue, _⟩ := h
      simp [hvalue]

theorem text_of_shows {room : Nat} {node : Node} {v : Phrase} (hnode : node.Shows v) {a : String} :
    NodeReader.text room node = .ok a ↔ ∃ l, v = .scalar (.text l) ∧ l.Denotes a := by
  rw [text_eq_ok]
  cases hnode with
  | list | object => simp
  | scalar ht => simp [ht.text_iff]

theorem boolean_of_shows {room : Nat} {node : Node} {v : Phrase} (hnode : node.Shows v)
    {b : Bool} : NodeReader.boolean room node = .ok b ↔ v = .scalar (.boolean b) := by
  rw [boolean_eq_ok]
  cases hnode with
  | list | object => simp
  | scalar ht => simp [ht.boolean_iff]

theorem placeless_text : NodeReader.text.Placeless :=
  fun hnode hread _ hnode' => (text_of_shows hnode').mpr ((text_of_shows hnode).mp hread)

theorem placeless_boolean : NodeReader.boolean.Placeless :=
  fun hnode hread _ hnode' => (boolean_of_shows hnode').mpr ((boolean_of_shows hnode).mp hread)

theorem careful_text : NodeReader.text.Careful := by
  intro room node s hread
  obtain ⟨t, rfl, hlexeme⟩ := text_eq_ok.mp hread
  simp [Node.skip, Token.skip, hlexeme]

theorem careful_boolean : NodeReader.boolean.Careful := by
  intro room node b hread
  obtain ⟨t, rfl, hlexeme⟩ := boolean_eq_ok.mp hread
  simp [Node.skip, Token.skip, hlexeme]

theorem placeless_optional {α : Type} {reader : NodeReader α} (hplaceless : reader.Placeless) :
    reader.optional.Placeless := by
  intro room node v a hnode hread node' hnode'
  have hnull : node'.isNull = node.isNull := by
    rw [Bool.eq_iff_iff, hnode.isNull_iff, hnode'.isNull_iff]
  rw [NodeReader.optional] at hread ⊢
  rw [hnull]
  split
  next hnull => simpa [hnull] using hread
  next hnull =>
    rw [if_neg hnull] at hread
    obtain ⟨b, hb, hread⟩ := map_eq_ok.mp hread
    exact map_eq_ok.mpr ⟨b, hplaceless hnode hb node' hnode', hread⟩

theorem optional_of_shows {α : Type} (reader : NodeReader α) (room : Nat) {node : Node} {v : Phrase}
    (hnode : node.Shows v) (hv : ¬ v.IsNull) :
    reader.optional room node = (reader room node).map some := by
  rw [NodeReader.optional, if_neg (mt hnode.isNull_iff.mp hv)]

theorem accepts_some {α : Type} {reader : NodeReader α} {room : Nat} {v : Phrase}
    (hv : ¬ v.IsNull) {a : α} (h : reader.Accepts room v a) :
    reader.optional.Accepts room v (some a) := by
  intro node hnode
  rw [optional_of_shows reader room hnode hv, h node hnode]
  rfl

theorem accepts_optional_iff {α : Type} {reader : NodeReader α} (hplaceless : reader.Placeless)
    {room : Nat} {v : Phrase} (hv : ¬ v.IsNull) {o : Option α} :
    reader.optional.Accepts room v o ↔ ∃ a, reader.Accepts room v a ∧ some a = o := by
  constructor
  · intro h
    obtain ⟨node, hnode⟩ := v.exists_node
    have hread := h node hnode
    rw [optional_of_shows reader room hnode hv] at hread
    obtain ⟨a, ha, hsome⟩ := map_eq_ok.mp hread
    exact ⟨a, hplaceless hnode ha, hsome⟩
  · rintro ⟨a, ha, rfl⟩
    exact accepts_some hv ha

theorem careful_optional {α : Type} {reader : NodeReader α} (hcareful : reader.Careful) :
    reader.optional.Careful := by
  intro room node a hread
  rw [NodeReader.optional] at hread
  split at hread
  next hnull =>
    cases node with
    | leaf t =>
        simp only [Node.isNull] at hnull
        split at hnull
        next hlexeme => simp [Node.skip, Token.skip, hlexeme]
        next => cases hnull
    | list | object => cases hnull
  next =>
    obtain ⟨b, hb, _⟩ := map_eq_ok.mp hread
    exact hcareful hb

/-! ## Values of any kind -/

theorem Scalar.Shows.readScalar_eq {s : Scalar} {t t' : Token} (h : s.Shows t.lexeme)
    (h' : s.Shows t'.lexeme) {value : Value} (hread : t.readScalar = .ok value) :
    t'.readScalar = .ok value := by
  cases s with
  | null =>
      simpa [Token.readScalar, show t.lexeme = .null from h, show t'.lexeme = .null from h']
        using hread
  | boolean b =>
      simpa [Token.readScalar, show t.lexeme = .boolean b from h,
        show t'.lexeme = .boolean b from h'] using hread
  | number n =>
      obtain ⟨x, hx, hvalue⟩ := h
      obtain ⟨x', hx', hvalue'⟩ := h'
      rw [← hvalue] at hvalue'
      simp only [Token.readScalar, hx, hx'] at hread ⊢
      cases x with
      | error => cases hread
      | ok a =>
          cases x' with
          | error => cases hvalue'
          | ok a' =>
              cases hvalue'
              exact hread
  | text l =>
      obtain ⟨x, hx, hvalue⟩ := h
      obtain ⟨x', hx', hvalue'⟩ := h'
      simp only [Token.readScalar, hx, hx'] at hread ⊢
      cases x with
      | error => cases hread
      | ok a =>
          cases hread
          rw [(hvalue' a).mpr ((hvalue a).mp rfl)]

mutual

theorem Node.Shows.readValue_eq : ∀ {v : Phrase} {node node' : Node}, node.Shows v →
    node'.Shows v → ∀ {room : Nat} {value : Value}, node.readValue room = .ok value →
    node'.readValue room = .ok value
  | .scalar _, _, _, .scalar h, .scalar h', _, _, hread => h.readScalar_eq h' hread
  | .list _, _, _, .list _ h, .list _ h', 0, _, hread => by cases hread
  | .list _, _, _, .list _ h, .list _ h', room + 1, _, hread => by
      obtain ⟨values, hvalues, hread⟩ := map_eq_ok.mp hread
      exact map_eq_ok.mpr ⟨values, h.readValues_eq h' hvalues, hread⟩
  | .object _, _, _, .object _ h, .object _ h', 0, _, hread => by cases hread
  | .object _, _, _, .object _ h, .object _ h', room + 1, _, hread => by
      obtain ⟨values, hvalues, hread⟩ := map_eq_ok.mp hread
      exact map_eq_ok.mpr ⟨values, h.readValues_eq h' hvalues, hread⟩

theorem Items.Shows.readValues_eq : ∀ {vs : List Phrase} {items items' : Items}, items.Shows vs →
    items'.Shows vs → ∀ {room index : Nat} {values : List Value},
    items.readValues room index = .ok values → items'.readValues room index = .ok values
  | _, _, _, .closed, .closed, _, _, _, hread => hread
  | _, _, _, .item hnode hitems, .item hnode' hitems', _, _, _, hread => by
      obtain ⟨value, hvalue, hread⟩ := bind_eq_ok.mp hread
      obtain ⟨others, hothers, hread⟩ := bind_eq_ok.mp hread
      have hvalue' := hnode.readValue_eq hnode' (within_eq_ok.mp hvalue)
      exact bind_eq_ok.mpr ⟨value, within_eq_ok.mpr hvalue',
        bind_eq_ok.mpr ⟨others, hitems.readValues_eq hitems' hothers, hread⟩⟩

theorem Fields.Shows.readValues_eq : ∀ {ms : Members} {fields fields' : Fields},
    fields.Shows ms → fields'.Shows ms → ∀ {room : Nat} {before after : List (String × Value)},
    fields.readValues room before = .ok after → fields'.readValues room before = .ok after
  | _, _, _, .closed, .closed, _, _, _, hread => hread
  | _, _, _, .field _ hkey hnode hfields, .field _ hkey' hnode' hfields', _, _, _, hread => by
      obtain ⟨name, hname, hread⟩ := bind_eq_ok.mp hread
      obtain ⟨value, hvalue, hread⟩ := bind_eq_ok.mp hread
      have hname' := (Token.readKey_iff hkey').mpr ((Token.readKey_iff hkey).mp hname)
      have hvalue' := hnode.readValue_eq hnode' (within_eq_ok.mp hvalue)
      exact bind_eq_ok.mpr ⟨name, hname', bind_eq_ok.mpr ⟨value, within_eq_ok.mpr hvalue',
        hfields.readValues_eq hfields' hread⟩⟩

end

theorem placeless_value : NodeReader.value.Placeless :=
  fun hnode hread _ hnode' => hnode.readValue_eq hnode' hread

theorem Token.skip_of_readScalar {t : Token} {value : Value} (h : t.readScalar = .ok value) :
    t.skip = .ok () := by
  rw [Token.readScalar] at h
  rw [Token.skip]
  split at h <;> simp_all

mutual

theorem Node.skip_of_readValue : ∀ (node : Node) {room : Nat} {value : Value},
    node.readValue room = .ok value → node.skip = .ok ()
  | .leaf t, _, _, hread => Token.skip_of_readScalar hread
  | .list _ _, 0, _, hread => by cases hread
  | .list _ items, room + 1, _, hread => by
      obtain ⟨_, hvalues, _⟩ := map_eq_ok.mp hread
      exact items.skip_of_readValues hvalues
  | .object _ _, 0, _, hread => by cases hread
  | .object _ fields, room + 1, _, hread => by
      obtain ⟨_, hvalues, _⟩ := map_eq_ok.mp hread
      exact fields.skip_of_readValues hvalues

theorem Items.skip_of_readValues : ∀ (items : Items) {room index : Nat} {values : List Value},
    items.readValues room index = .ok values → items.skip = .ok ()
  | .done ending, _, _, _, hread => by
      obtain ⟨_, hending, _⟩ := map_eq_ok.mp hread
      exact ending.skip_of_read hending
  | .item node rest, _, _, _, hread => by
      obtain ⟨_, hvalue, hread⟩ := bind_eq_ok.mp hread
      obtain ⟨_, hothers, _⟩ := bind_eq_ok.mp hread
      simp [Items.skip, node.skip_of_readValue (within_eq_ok.mp hvalue),
        rest.skip_of_readValues hothers, bind, Except.bind]

theorem Fields.skip_of_readValues : ∀ (fields : Fields) {room : Nat}
    {before after : List (String × Value)}, fields.readValues room before = .ok after →
    fields.skip = .ok ()
  | .done ending, _, _, _, hread => by
      cases ending with
      | closed | cut => rfl
      | noSeparator | noKey => cases hread
      | noColon key found =>
          obtain ⟨_, hname, hread⟩ := bind_eq_ok.mp hread
          obtain ⟨_, hcolon, _⟩ := bind_eq_ok.mp hread
          exact ObjectEnd.skip_noColon hname hcolon
  | .field key _ node rest, _, _, _, hread => by
      obtain ⟨name, hname, hread⟩ := bind_eq_ok.mp hread
      obtain ⟨_, hvalue, hread⟩ := bind_eq_ok.mp hread
      simp [Fields.skip, Token.skip_of_readKey hname,
        node.skip_of_readValue (within_eq_ok.mp hvalue), rest.skip_of_readValues hread, bind,
        Except.bind]

end

theorem careful_value : NodeReader.value.Careful := fun hread => Node.skip_of_readValue _ hread

end Typings.Json
