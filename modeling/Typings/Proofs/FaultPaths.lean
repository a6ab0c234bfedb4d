import Typings.Proofs.DocumentationText
import Typings.Proofs.Json.Writing

/-! # Paths of faults

A scalar in a place where it does not belong is the first thing that is wrong, if everything before
it is right. Its fault has the path of that place, whatever the text goes on with.
-/

namespace Typings.Json

/-! ## Scalars out of place -/

/-- The scalar is of a kind that does not belong where a value of the schema does. Whether `null`
is taken is left open. -/
def Schema.Refuses : Schema → Scalar → Prop
  | _, .null => False
  | .any, _ => False
  | .text, .text _ => False
  | .boolean, .boolean _ => False
  | _, _ => True

theorem Schema.Refuses.not_null {s : Schema} {x : Scalar} (h : s.Refuses x) :
    ¬ (Phrase.scalar x).IsNull := by
  cases x with
  | null => cases s <;> exact absurd h id
  | boolean | number | text => exact id

theorem Follows.refused {α : Type} {reader : NodeReader α} {s : Schema} (h : Follows reader s)
    {x : Scalar} (hrefuses : s.Refuses x) {t : Token} (hx : x.Shows t.lexeme) (room : Nat) :
    ∃ failure, reader room (.leaf t) = .error ⟨[], failure⟩ := by
  induction h using Follows.induct generalizing room with
  | text =>
      unfold NodeReader.text
      split
      next value start stop heq =>
        cases heq
        obtain ⟨l, rfl, _⟩ := hx.text_iff.mp rfl
        exact absurd hrefuses id
      next => exact ⟨_, rfl⟩
  | boolean =>
      unfold NodeReader.boolean
      split
      next value start stop heq =>
        cases heq
        obtain rfl := hx.boolean_iff.mp rfl
        exact absurd hrefuses id
      next => exact ⟨_, rfl⟩
  | value => cases x <;> exact absurd hrefuses id
  | optional h ih =>
      obtain ⟨failure, hfailure⟩ := ih hrefuses room
      refine ⟨failure, ?_⟩
      rw [optional_of_shows _ room (.scalar hx) hrefuses.not_null, hfailure]
      rfl
  | list => exact ⟨_, rfl⟩
  | record => exact ⟨_, rfl⟩

/-! ## Trees up to some token -/

/-- Along the frames, the tree leads to a leaf with this token. What the frames say of the text
behind the leaf does not matter. -/
inductive Node.Reaches : Node → List Frame → Token → Prop
  | here (t : Token) : Node.Reaches (.leaf t) [] t
  | item (bracket : Token) {items rest : Items} {node : Node} {before : List Phrase}
      (after : List Phrase) {frames : List Frame} {t : Token} :
      items.Passes before (.item node rest) → node.Reaches frames t →
      Node.Reaches (.list bracket items) (.item before after :: frames) t
  | member (bracket : Token) {fields rest : Fields} {k colon : Token} {key : TextLiteral}
      {node : Node} {before : Members} (after : Members)
      {frames : List Frame} {t : Token} :
      fields.Passes before (.field k colon node rest) → (Scalar.text key).Shows k.lexeme →
      node.Reaches frames t →
      Node.Reaches (.object bracket fields) (.member before key after :: frames) t

theorem within_error {α : Type} {step : Step} {steps : List Step} {failure : Failure}
    {x : Except Fault α} (h : x = .error ⟨steps, failure⟩) :
    within step x = .error ⟨step :: steps, failure⟩ := by
  rw [h]
  rfl

theorem of_read_error {σ α : Type} {name : String} {reader : NodeReader α} {put : α → σ → σ}
    {room : Nat} {node : Node} {fault : Fault} (h : reader room node = .error fault)
    (record : σ) : (RecordField.of name reader put).read room node record = .error fault := by
  simp [RecordField.of, h, Except.map]

section Records

variable {σ : Type} {layout : List (RecordField σ)} {field : RecordField σ} {room : Nat}
  {record : σ} {node : Node} {steps : List Step} {failure : Failure}

theorem readFieldsInto_error {k colon : Token} {key : TextLiteral} {name : String}
    (hshows : (Scalar.text key).Shows k.lexeme) (hkey : key.Denotes name)
    (hfind : layout.find? (·.name == name) = some field) {seen : List String}
    (hnew : name ∉ seen) (hread : field.read room node record = .error ⟨steps, failure⟩)
    (rest : Fields) :
    readFieldsInto layout room seen record (.field k colon node rest) =
      .error ⟨.key name :: steps, failure⟩ := by
  simp [readFieldsInto, (Token.readKey_iff hshows).mpr hkey, readNamedField, hfind, hnew,
    within_error hread, bind, Except.bind]

theorem readItemsInto_error (hread : field.read room node record = .error ⟨steps, failure⟩)
    (index : Nat) (rest : Items) :
    readItemsInto room index record (field :: layout) (.item node rest) =
      .error ⟨.index index :: steps, failure⟩ := by
  rw [readItemsInto, within_error hread]
  rfl

variable {label : String} {empty mid : σ} {name : String}

/-- A list of positions goes wrong at one of them. -/
theorem position_error {before : List Phrase}
    (hbefore : Filled room layout empty before (layout.drop before.length) mid)
    (hget : layout[before.length]? = some field) {items rest : Items}
    (hpasses : items.Passes before (.item node rest))
    (hread : field.read room node mid = .error ⟨steps, failure⟩) (bracket : Token) :
    NodeReader.record label layout empty (room + 1) (.list bracket items) =
      .error ⟨.index before.length :: steps, failure⟩ := by
  rw [NodeReader.record, itemsInto_passes hbefore hpasses, Nat.zero_add, drop_eq_cons hget]
  exact readItemsInto_error hread before.length rest

/-- An object goes wrong at one of its members. -/
theorem member_error {before after : Members} {key : TextLiteral} {v : Phrase}
    (hbefore : Gathered layout room empty before mid)
    (hunrepeated : Unrepeated (layout.map (·.name)) (before ++ (key, v) :: after))
    (hkey : key.Denotes name) (hfind : layout.find? (·.name == name) = some field)
    {fields rest : Fields} {k colon : Token} (hshows : (Scalar.text key).Shows k.lexeme)
    (hpasses : fields.Passes before (.field k colon node rest))
    (hread : field.read room node mid = .error ⟨steps, failure⟩) (bracket : Token) :
    NodeReader.record label layout empty (room + 1) (.object bracket fields) =
      .error ⟨.key name :: steps, failure⟩ := by
  obtain ⟨hunrepeatedBefore, _, hapart⟩ := List.pairwise_append.mp hunrepeated
  have hunseen : Unseen (layout.map (·.name)) [] before := by simp [Unseen]
  obtain ⟨seen, hpassed, hseen⟩ := fieldsInto_passes hbefore hunrepeatedBefore hunseen hpasses
  -- a key that was seen is the key of an earlier member
  have hnew : name ∉ seen := by
    intro hname
    rcases hseen name hname with hname | ⟨m, hm, hdenotes⟩
    · cases hname
    · exact hapart m hm _ List.mem_cons_self name (mem_names_of_find hfind) hdenotes hkey
  rw [NodeReader.record, hpassed]
  exact readFieldsInto_error hshows hkey hfind hnew hread rest

end Records

theorem item_error {α : Type} {reader : NodeReader α} {room : Nat} {before : List Phrase}
    {as : List α} (hbefore : List.Forall₂ (reader.Accepts room) before as) {items rest : Items}
    {node : Node} (hpasses : items.Passes before (.item node rest)) {steps : List Step}
    {failure : Failure} (hread : reader room node = .error ⟨steps, failure⟩) (bracket : Token) :
    reader.list (room + 1) (.list bracket items) =
      .error ⟨.index before.length :: steps, failure⟩ := by
  rw [NodeReader.list, items_passes hbefore hpasses, NodeReader.items, within_error hread,
    Nat.zero_add]
  rfl

/-- In a document that is accepted otherwise, a scalar out of place is found in its place. -/
theorem Follows.misplaced {α : Type} {reader : NodeReader α} {s target : Schema}
    (h : Follows reader s) {frames : List Frame} {steps : List Step}
    (hleads : Leads s frames steps target) {room : Nat} {old : Phrase} {a : α}
    (haccepts : reader.Accepts room (plug frames old) a) {x : Scalar}
    (hrefuses : target.Refuses x) {t : Token} (hx : x.Shows t.lexeme) {node : Node}
    (hreaches : node.Reaches frames t) :
    ∃ failure, reader room node = .error ⟨steps, failure⟩ := by
  induction h using Follows.induct generalizing frames steps room node with
  | text =>
      cases hleads
      cases hreaches
      exact Follows.text.refused hrefuses hx room
  | boolean =>
      cases hleads
      cases hreaches
      exact Follows.boolean.refused hrefuses hx room
  | value =>
      cases hleads
      cases hreaches
      exact Follows.value.refused hrefuses hx room
  | @optional _ reader _ h ih =>
      cases frames with
      | nil =>
          cases hleads
          cases hreaches
          exact h.optional.refused hrefuses hx room
      | cons frame frames =>
          rw [accepts_optional_iff h.placeless (plug_not_null frame frames _)] at haccepts
          obtain ⟨b, hb, _⟩ := haccepts
          obtain ⟨failure, hfailure⟩ := ih hleads hb hreaches
          have hnull : node.isNull = false := by cases hreaches <;> rfl
          refine ⟨failure, ?_⟩
          simp [NodeReader.optional, hnull, hfailure, Except.map]
  | list h ih =>
      cases hleads with
      | here =>
          cases hreaches
          exact h.list.refused hrefuses hx room
      | item before after hleads =>
          cases hreaches with
          | item bracket _ hpasses hreaches =>
              rw [plug_item, accepts_item_iff h.placeless] at haccepts
              obtain ⟨inner, front, b, _, rfl, _, hfront, hb, _⟩ := haccepts
              obtain ⟨failure, hfailure⟩ := ih hleads hb hreaches
              exact ⟨failure, item_error hfront hpasses hfailure bracket⟩
  | @record label _ layout empty _ hlayout hnodup hcommutes ih =>
      have hplaceless := hlayout.placeless
      cases hleads with
      | here =>
          cases hreaches
          exact (Follows.record label empty hlayout hnodup hcommutes).refused hrefuses hx room
      | @member _ name s _ _ _ key before after hmem hkey hleads =>
          cases hreaches with
          | @member bracket fields rest k colon _ node _ _ _ _ hpasses hshows hreaches =>
              rw [plug_member, accepts_object_iff hplaceless] at haccepts
              obtain ⟨inner, rfl, hgathered, hunrepeated⟩ := haccepts
              obtain ⟨_, reader, put, hfind, hreader, ihreader⟩ := ih.find hnodup hmem
              rw [gathered_known_iff hkey hfind] at hgathered
              obtain ⟨mid, _, hbefore, hfield, _⟩ := hgathered
              obtain ⟨b, hb, _⟩ := (RecordField.accepts_of_iff hreader.placeless).mp hfield
              obtain ⟨failure, hfailure⟩ := ihreader hleads hb hreaches
              exact ⟨failure, member_error hbefore hunrepeated hkey hfind hshows hpasses
                (of_read_error hfailure mid) bracket⟩
      | @position _ name s _ _ _ before after hget hleads =>
          cases hreaches with
          | @item bracket items rest node _ _ _ _ hpasses hreaches =>
              rw [plug_item, accepts_positions_iff hplaceless] at haccepts
              obtain ⟨inner, rfl, _, hfilled⟩ := haccepts
              obtain ⟨_, reader, put, hget, hreader, ihreader⟩ := ih.getElem? hget
              rw [filled_item_iff hget] at hfilled
              obtain ⟨mid, _, hbefore, hfield, _⟩ := hfilled
              obtain ⟨b, hb, _⟩ := (RecordField.accepts_of_iff hreader.placeless).mp hfield
              obtain ⟨failure, hfailure⟩ := ihreader hleads hb hreaches
              exact ⟨failure, position_error hbefore hget hpasses (of_read_error hfailure mid)
                bracket⟩

/-! ## The text up to some value -/

/-- The pieces of the frame in front of the value. -/
def Frame.opening : Frame → List Piece
  | item before _ => .mark .openList :: (itemPieces true before ++ separator before.isEmpty)
  | member before key _ =>
    .mark .openObject :: (memberPieces true before ++ (separator before.isEmpty ++
      [.scalar (.text key), .mark .colon]))

/-- The pieces of the frames in front of the value. -/
def opening (frames : List Frame) : List Piece := frames.flatMap Frame.opening

theorem itemPieces_append (isFirst : Bool) (before after : List Phrase) :
    itemPieces isFirst (before ++ after) =
      itemPieces isFirst before ++ itemPieces (isFirst && before.isEmpty) after := by
  induction before generalizing isFirst with
  | nil => simp [itemPieces]
  | cons v before ih => simp [itemPieces, ih]

theorem memberPieces_append (isFirst : Bool) (before after : Members) :
    memberPieces isFirst (before ++ after) =
      memberPieces isFirst before ++ memberPieces (isFirst && before.isEmpty) after := by
  induction before generalizing isFirst with
  | nil => simp [memberPieces]
  | cons m before ih => simp [memberPieces, ih]

/-- A value within frames begins with the opening of the frames, whatever the value is. -/
theorem pieces_plug (frames : List Frame) :
    ∃ closing, ∀ v, (plug frames v).pieces = opening frames ++ (v.pieces ++ closing) := by
  induction frames with
  | nil => exact ⟨[], fun v => by simp [plug, opening]⟩
  | cons frame frames ih =>
      obtain ⟨closing, hclosing⟩ := ih
      cases frame with
      | item before after =>
          refine ⟨closing ++ (itemPieces false after ++ [.mark .closeList]), fun v => ?_⟩
          simp [Phrase.pieces, itemPieces_append, itemPieces, hclosing, opening, Frame.opening]
      | member before key after =>
          refine ⟨closing ++ (memberPieces false after ++ [.mark .closeObject]), fun v => ?_⟩
          simp [Phrase.pieces, memberPieces_append, memberPieces, hclosing, opening, Frame.opening]

/-! ## The tree of such a text -/

/-- Behind some items, a list is read on with the node at the next token. `n` stands for what the
node needs. -/
theorem readItems_front (before : List Phrase) {isFirst : Bool} {ts : List Token}
    (hts : ShownBy (itemPieces isFirst before ++ separator (isFirst && before.isEmpty)) ts)
    {t : Token} (hclose : t.isMark .closeList = false) (hfinish : t.isFinish = false)
    {n limit : Nat} (hlimit : 2 * (ts.length + n) + 1 ≤ limit) (more : List Token) :
    ∃ inner rest, 2 * n ≤ inner ∧ (readItems limit isFirst (ts ++ t :: more)).1.Passes before
      (.item (readNode inner (t :: more)).1 rest) := by
  obtain ⟨limit, rfl⟩ : ∃ l, limit = l + 1 := ⟨limit - 1, by omega⟩
  induction before generalizing isFirst ts limit with
  | nil =>
      rw [itemPieces, List.nil_append, List.isEmpty_nil, Bool.and_true] at hts
      rw [readItems_item isFirst hts hclose hfinish]
      exact ⟨limit, _, by omega, .nil _⟩
  | cons v before ih =>
      simp only [itemPieces, List.append_assoc, List.isEmpty_cons, Bool.and_false] at hts
      obtain ⟨commas, ts, rfl, hcommas, hts⟩ := forall₂_append_left_iff.mp hts
      obtain ⟨front, back, rfl, hfront, hback⟩ := forall₂_append_left_iff.mp hts
      have hpos : front.length = v.pieces.length := hfront.length_eq.symm
      have := v.pieces_length_pos
      simp only [List.length_append] at hlimit
      obtain ⟨node, hnode, hshows⟩ := readNode_phrase v limit hfront (by omega) (back ++ t :: more)
      obtain ⟨t', front, rfl, hnoclose, hnofinish⟩ := ShownBy.head_phrase hfront
      have hstep := readItems_item isFirst hcommas hnoclose hnofinish limit
        (front ++ (back ++ t :: more))
      rw [← List.cons_append, hnode] at hstep
      obtain ⟨limit, rfl⟩ : ∃ l, limit = l + 1 := ⟨limit - 1, by omega⟩
      have hback' : ShownBy (itemPieces false before ++ separator (false && before.isEmpty)) back :=
        hback
      obtain ⟨inner, rest, hinner, hpasses⟩ := ih hback' limit (by omega)
      refine ⟨inner, rest, hinner, ?_⟩
      rw [List.append_assoc, List.append_assoc, hstep]
      exact .cons hshows hpasses

theorem readFields_front (before : Members) {isFirst : Bool} {ts : List Token}
    (hts : ShownBy (memberPieces isFirst before ++ separator (isFirst && before.isEmpty)) ts)
    {k colon : Token} {key : TextLiteral} (hkey : (Scalar.text key).Shows k.lexeme)
    (hcolon : colon.lexeme = .mark .colon)
    {n limit : Nat} (hlimit : 2 * (ts.length + n) + 2 ≤ limit) (more : List Token) :
    ∃ inner rest, 2 * n ≤ inner ∧
      (readFields limit isFirst (ts ++ k :: colon :: more)).1.Passes before
        (.field k colon (readNode inner more).1 rest) := by
  obtain ⟨limit, rfl⟩ : ∃ l, limit = l + 2 := ⟨limit - 2, by omega⟩
  induction before generalizing isFirst ts limit with
  | nil =>
      obtain ⟨value, htext, _⟩ := id hkey
      rw [memberPieces, List.nil_append, List.isEmpty_nil, Bool.and_true] at hts
      rw [readFields_field isFirst hts htext hcolon]
      exact ⟨limit, _, by omega, .nil _⟩
  | cons m before ih =>
      obtain ⟨key', v⟩ := m
      simp only [memberPieces, List.append_assoc, List.cons_append, List.isEmpty_cons,
        Bool.and_false] at hts
      obtain ⟨commas, ts, rfl, hcommas, hmember⟩ := forall₂_append_left_iff.mp hts
      obtain ⟨k', _, hkey', hcolons, rfl⟩ := List.forall₂_cons_left_iff.mp hmember
      obtain ⟨colon', _, hcolon', hbehind, rfl⟩ := List.forall₂_cons_left_iff.mp hcolons
      obtain ⟨front, back, rfl, hfront, hback⟩ := forall₂_append_left_iff.mp hbehind
      simp only [List.length_append, List.length_cons] at hlimit
      obtain ⟨node, hnode, hshows⟩ := readNode_phrase v limit hfront (by omega)
        (back ++ k :: colon :: more)
      obtain ⟨value, htext, _⟩ := id hkey'
      have hstep := readFields_field isFirst hcommas htext hcolon' limit
        (front ++ (back ++ k :: colon :: more))
      rw [hnode] at hstep
      obtain ⟨limit, rfl⟩ : ∃ l, limit = l + 2 := ⟨limit - 2, by omega⟩
      have hback' : ShownBy
          (memberPieces false before ++ separator (false && before.isEmpty)) back := hback
      obtain ⟨inner, rest, hinner, hpasses⟩ := ih hback' limit (by omega)
      refine ⟨inner, rest, hinner, ?_⟩
      simp only [List.append_assoc, List.cons_append, hstep]
      exact .cons colon' hkey' hshows hpasses

/-- The first token of a value in its frames. -/
theorem head_opening {frames : List Frame} {x : Scalar} {ts : List Token}
    (hts : ShownBy (opening frames ++ [.scalar x]) ts) :
    ∃ t rest, ts = t :: rest ∧ t.isMark .closeList = false ∧ t.isFinish = false := by
  have hopen : ∀ {t : Token} {m : Mark}, t.lexeme = .mark m → m ≠ .closeList →
      t.isMark .closeList = false ∧ t.isFinish = false := by
    intro t m hm hne
    refine ⟨?_, isFinish_of_not_last (by rw [hm]; rfl)⟩
    rw [isMark_of_lexeme hm]
    exact beq_false_of_ne hne.symm
  cases frames with
  | nil =>
      obtain ⟨t, rest, hx, _, rfl⟩ := List.forall₂_cons_left_iff.mp hts
      exact ⟨t, rest, rfl, hx.isMark _, isFinish_of_not_last hx.not_last⟩
  | cons frame frames =>
      cases frame with
      | item before after =>
          obtain ⟨t, rest, ht, _, rfl⟩ := List.forall₂_cons_left_iff.mp hts
          exact ⟨t, rest, rfl, hopen ht (by decide)⟩
      | member before key after =>
          obtain ⟨t, rest, ht, _, rfl⟩ := List.forall₂_cons_left_iff.mp hts
          exact ⟨t, rest, rfl, hopen ht (by decide)⟩

theorem readNode_opening (frames : List Frame) {x : Scalar} {ts : List Token}
    (hts : ShownBy (opening frames ++ [.scalar x]) ts) {limit : Nat}
    (hlimit : 2 * ts.length ≤ limit) (more : List Token) :
    ∃ t, x.Shows t.lexeme ∧ (readNode limit (ts ++ more)).1.Reaches frames t := by
  induction frames generalizing ts limit with
  | nil =>
      obtain ⟨t, _, hx, hnil, rfl⟩ := List.forall₂_cons_left_iff.mp hts
      cases hnil
      obtain ⟨limit, rfl⟩ : ∃ l, limit = l + 1 := ⟨limit - 1, by simp at hlimit; omega⟩
      refine ⟨t, hx, ?_⟩
      rw [List.singleton_append, readNode_scalar hx]
      exact .here t
  | cons frame frames ih =>
      have hcons : opening (frame :: frames) = frame.opening ++ opening frames := by simp [opening]
      rw [hcons, List.append_assoc] at hts
      -- the tokens of the outermost frame, and those of the node that is read within it
      obtain ⟨front, back, rfl, hfront, hback⟩ := forall₂_append_left_iff.mp hts
      rw [List.length_append] at hlimit
      obtain ⟨t, back, rfl, hclose, hfinish⟩ := head_opening hback
      cases frame with
      | item before after =>
          obtain ⟨bracket, front, hopen, hitems, rfl⟩ := List.forall₂_cons_left_iff.mp hfront
          rw [List.length_cons] at hlimit
          obtain ⟨limit, rfl⟩ : ∃ l, limit = l + 1 := ⟨limit - 1, by omega⟩
          have hitems' : ShownBy (itemPieces true before ++ separator (true && before.isEmpty))
              front := hitems
          obtain ⟨inner, rest, hinner, hpasses⟩ := readItems_front before hitems' hclose hfinish
            (show 2 * (front.length + (t :: back).length) + 1 ≤ limit by omega) (back ++ more)
          obtain ⟨leaf, hx, hreaches⟩ := ih hback hinner
          refine ⟨leaf, hx, ?_⟩
          rw [List.cons_append, List.cons_append, readNode_list hopen, List.append_assoc]
          exact .item bracket after hpasses hreaches
      | member before key after =>
          obtain ⟨bracket, _, hopen, hinside, rfl⟩ := List.forall₂_cons_left_iff.mp hfront
          rw [← List.append_assoc] at hinside
          obtain ⟨front, _, rfl, hmembers, hfield⟩ := forall₂_append_left_iff.mp hinside
          obtain ⟨k, _, hkey, hcolons, rfl⟩ := List.forall₂_cons_left_iff.mp hfield
          obtain ⟨colon, _, hcolon, hnil, rfl⟩ := List.forall₂_cons_left_iff.mp hcolons
          cases hnil
          simp only [List.length_cons, List.length_append, List.length_nil] at hlimit
          obtain ⟨limit, rfl⟩ : ∃ l, limit = l + 1 := ⟨limit - 1, by omega⟩
          have hmembers' : ShownBy
              (memberPieces true before ++ separator (true && before.isEmpty)) front := hmembers
          obtain ⟨inner, rest, hinner, hpasses⟩ := readFields_front before hmembers' hkey hcolon
            (show 2 * (front.length + (t :: back).length) + 2 ≤ limit by simp; omega)
            (t :: back ++ more)
          obtain ⟨leaf, hx, hreaches⟩ := ih hback hinner
          refine ⟨leaf, hx, ?_⟩
          have htokens : bracket :: (front ++ [k, colon]) ++ t :: back ++ more =
              bracket :: (front ++ k :: colon :: (t :: back ++ more)) := by simp
          rw [htokens, readNode_object hopen]
          exact .member bracket after hpasses hkey hreaches

theorem apart_opening (frames : List Frame) (x : Scalar) :
    Apart (opening frames ++ [.scalar x]) := by
  obtain ⟨closing, hclosing⟩ := pieces_plug frames
  have hapart : Apart ((plug frames (.scalar x)).pieces ++ []) :=
    Phrase.apart_append _ .nil (by rintro _ ⟨⟩)
  rw [List.append_nil, hclosing, Phrase.pieces, ← List.append_assoc] at hapart
  exact List.IsChain.left_of_append hapart

end Typings.Json

namespace Typings.Docs

open Json

/-- The scalar is the first thing that is wrong in the text, and its place is the path of the
fault: in a document that is accepted otherwise, a scalar stands where a value of another kind was
read, and anything at all follows the separator behind it. -/
theorem load_misplaced {frames : List Frame} {old : Phrase} {valid : List Char}
    {objects : List Object} (hvalid : (plug frames old).WrittenAs valid)
    (hload : load (String.ofList valid) = .ok objects) {steps : List Step} {s : Schema}
    (hleads : Leads documentation frames steps s) {x : Scalar} (hrefuses : s.Refuses x)
    {front : List Char} (hfront : Spaced (opening frames ++ [.scalar x]) front) {c : Char}
    (hc : c ∈ [',', ']', '\x7d'] ∨ Cursor.isSpace c = true) (rest : List Char) :
    ∃ e, load (String.ofList (front ++ c :: rest)) = .error e ∧ e.path = pathText steps := by
  rw [← List.append_nil valid, load_phrase hvalid (piecesEnd_nil _)] at hload
  -- the separator ends the scalar even if this is a number
  have hends : EndsNumber (c :: rest) := by
    rcases hc with hc | hc
    · simp only [List.mem_cons, List.not_mem_nil, or_false] at hc
      rcases hc with rfl | rfl | rfl
      · exact endsNumber_mark .comma rest
      · exact endsNumber_mark .closeList rest
      · exact endsNumber_mark .closeObject rest
    · exact endsNumber_of_isSpace hc rest
  obtain ⟨ts, p, htokens, hshown⟩ := Spaced.tokens hfront (apart_opening frames x)
    (piecesEnd_append_singleton (Piece.endsBefore_of_endsNumber hends)) ⟨1, 0⟩
  rw [← tokens_eq] at htokens
  obtain ⟨t, hx, hreaches⟩ := readNode_opening frames hshown
    (show 2 * ts.length ≤ 2 * (tokens (front ++ c :: rest)).length + 2 by
      rw [htokens, List.length_append]
      omega) (Cursor.tokens ⟨p, c :: rest⟩)
  rw [← htokens] at hreaches
  obtain ⟨failure, hfailure⟩ :=
    documentation_follows.misplaced hleads hload hrefuses hx hreaches
  refine ⟨⟨⟨steps, failure⟩⟩, ?_, rfl⟩
  rw [load, String.toList_ofList, readDocument, hfailure]

/-- A number in the place of a type, deep in the second entry and behind members that are
unknown. -/
theorem load_misplaced_type :
    ∃ e, load ("[\x7b\"name\":\"a\"\x7d,\x7b\"color\":true,\"name\":\"cart\"," ++
      "\"properties\":[\x7b\"name\":\"x\"\x7d,\x7b\"name\":\"y\"," ++
      "\"return_type\":[\x7b\"icon\":[null],\"type\":7, and so on") = .error e ∧
      e.path = "[1].properties[1].return_type[0].type" := by
  let text (s : String) : Phrase := .scalar (.text (.ofString s))
  let named (s : String) : Phrase := .object [(.ofString "name", text s)]
  let color : TextLiteral × Phrase := (.ofString "color", .scalar (.boolean true))
  let icon : TextLiteral × Phrase := (.ofString "icon", .list [.scalar .null])
  let frames : List Frame :=
    [.item [named "a"] [],
      .member [color, (.ofString "name", text "cart")] (.ofString "properties") [],
      .item [named "x"] [],
      .member [(.ofString "name", text "y")] (.ofString "return_type") [],
      .item [] [], .member [icon] (.ofString "type") []]
  have hproperties : ("properties", .list propertySchema) ∈ objectFields := by simp [objectFields]
  have hleads : Leads documentation frames [.index 1, .key "properties", .index 1,
      .key "return_type", .index 0, .key "type"] .text := by
    refine .item _ _ (.member _ _ hproperties (TextLiteral.ofString_denotes _) (.item _ _ ?_))
    -- the type of a property is the third of its fields
    refine .member _ _ (.tail _ (.tail _ (.head _))) (TextLiteral.ofString_denotes _) ?_
    refine .item _ _ ?_
    exact .member _ _ List.mem_cons_self (TextLiteral.ofString_denotes _) (.here _)
  obtain ⟨objects, hload⟩ := exists_loaded (show (load (String.ofList
    ((plug frames (text "product")).pieces.flatMap Piece.chars))).isOk = true by decide +kernel)
  let seven : Scalar := .number (.ofInt 7)
  obtain ⟨e, herror, hpath⟩ := load_misplaced (Spaced.flat _) hload hleads
    (show Schema.text.Refuses seven from trivial) (Spaced.flat _)
    (show ',' ∈ [',', ']', '\x7d'] ∨ _ from .inl List.mem_cons_self) " and so on".toList
  refine ⟨e, ?_, ?_⟩
  · rw [← herror]
    exact congrArg load (by decide +kernel)
  · rw [hpath]
    decide +kernel

end Typings.Docs
