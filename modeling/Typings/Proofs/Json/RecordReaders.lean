import Typings.Proofs.Json.ListReaders

/-! # What readers make of records

A reader of records accepts an object exactly if its members, read one after the other, make up the
record and none of the names is repeated. It accepts a list exactly if the items, read in the order
of the fields, make up the record.
-/

namespace Typings.Json

namespace RecordField

variable {σ : Type}

/-- The field reads this value into a record. -/
def Accepts (field : RecordField σ) (room : Nat) (v : Phrase) (record record' : σ) : Prop :=
  ∀ node : Node, node.Shows v → field.read room node record = .ok record'

def Placeless (field : RecordField σ) : Prop :=
  ∀ {room : Nat} {node : Node} {v : Phrase} {record record' : σ}, node.Shows v →
    field.read room node record = .ok record' → field.Accepts room v record record'

def Careful (field : RecordField σ) : Prop :=
  ∀ {room : Nat} {node : Node} {record record' : σ}, field.read room node record = .ok record' →
    node.skip = .ok ()

end RecordField

/-! ## Fields by name -/

variable {σ : Type}

/-- The members of an object, read one after the other, take a record to another one. -/
inductive Gathered (layout : List (RecordField σ)) (room : Nat) :
    σ → Members → σ → Prop
  | nil (record : σ) : Gathered layout room record [] record
  | unknown {record record' : σ} {key : TextLiteral} {name : String} (v : Phrase)
      {ms : Members} : key.Denotes name →
      layout.find? (·.name == name) = none → Gathered layout room record ms record' →
      Gathered layout room record ((key, v) :: ms) record'
  | known {record mid record' : σ} {key : TextLiteral} {name : String} {v : Phrase}
      {ms : Members} {field : RecordField σ} : key.Denotes name →
      layout.find? (·.name == name) = some field → field.Accepts room v record mid →
      Gathered layout room mid ms record' → Gathered layout room record ((key, v) :: ms) record'

theorem gathered_append_iff {layout : List (RecordField σ)} {room : Nat} {record record' : σ}
    {ms ms' : Members} :
    Gathered layout room record (ms ++ ms') record' ↔
      ∃ mid, Gathered layout room record ms mid ∧ Gathered layout room mid ms' record' := by
  induction ms generalizing record with
  | nil =>
      constructor
      · exact fun h => ⟨record, .nil record, h⟩
      · rintro ⟨_, ⟨⟩, h⟩
        exact h
  | cons m ms ih =>
      constructor
      · intro h
        cases h with
        | unknown v hkey hfind h =>
            obtain ⟨mid, hfront, hback⟩ := ih.mp h
            exact ⟨mid, .unknown v hkey hfind hfront, hback⟩
        | known hkey hfind hfield h =>
            obtain ⟨mid, hfront, hback⟩ := ih.mp h
            exact ⟨mid, .known hkey hfind hfield hfront, hback⟩
      · rintro ⟨mid, hfront, hback⟩
        cases hfront with
        | unknown v hkey hfind h => exact .unknown v hkey hfind (ih.mpr ⟨mid, h, hback⟩)
        | known hkey hfind hfield h => exact .known hkey hfind hfield (ih.mpr ⟨mid, h, hback⟩)

/-- A member that is a field, with the members around it. -/
theorem gathered_known_iff {layout : List (RecordField σ)} {room : Nat} {record record' : σ}
    {before after : Members} {key : TextLiteral} {name : String}
    (hkey : key.Denotes name) {field : RecordField σ}
    (hfind : layout.find? (·.name == name) = some field) {v : Phrase} :
    Gathered layout room record (before ++ (key, v) :: after) record' ↔
      ∃ mid mid', Gathered layout room record before mid ∧ field.Accepts room v mid mid' ∧
        Gathered layout room mid' after record' := by
  rw [gathered_append_iff]
  constructor
  · rintro ⟨mid, hbefore, hbehind⟩
    cases hbehind with
    | unknown _ hkey' hfind' _ =>
        obtain rfl := hkey.unique hkey'
        cases hfind.symm.trans hfind'
    | @known _ mid' _ _ _ _ _ _ hkey' hfind' hfield hafter =>
        obtain rfl := hkey.unique hkey'
        cases hfind.symm.trans hfind'
        exact ⟨mid, mid', hbefore, hfield, hafter⟩
  · rintro ⟨mid, mid', hbefore, hfield, hafter⟩
    exact ⟨mid, hbefore, .known hkey hfind hfield hafter⟩

/-- No two members have the same one of these names. -/
def Unrepeated (names : List String) (ms : Members) : Prop :=
  ms.Pairwise fun m m' => ∀ name ∈ names, m.1.Denotes name → ¬ m'.1.Denotes name

theorem unrepeated_congr {names : List String} {ms ms' : Members}
    (hkeys : ms.map (·.1) = ms'.map (·.1)) : Unrepeated names ms ↔ Unrepeated names ms' := by
  have hiff : ∀ ms : Members, Unrepeated names ms ↔ (ms.map (·.1)).Pairwise
      fun key key' => ∀ name ∈ names, key.Denotes name → ¬ key'.Denotes name := by
    intro ms
    rw [List.pairwise_map, Unrepeated]
  rw [hiff, hiff, hkeys]

/-- None of the members has one of these names that is among the seen ones. -/
def Unseen (names seen : List String) (ms : Members) : Prop :=
  ∀ m ∈ ms, ∀ name ∈ names, m.1.Denotes name → name ∉ seen

/-- The fields are these members and then the others. -/
inductive Fields.Passes : Fields → Members → Fields → Prop
  | nil (rest : Fields) : Fields.Passes rest [] rest
  | cons {t : Token} {key : TextLiteral} (colon : Token) {node : Node} {v : Phrase}
      {fields : Fields} {ms : Members} {rest : Fields} :
      (Scalar.text key).Shows t.lexeme → node.Shows v → fields.Passes ms rest →
      Fields.Passes (.field t colon node fields) ((key, v) :: ms) rest

theorem Fields.Shows.passes {ms : Members} {fields : Fields}
    (h : fields.Shows ms) : fields.Passes ms (.done .closed) := by
  induction ms generalizing fields with
  | nil =>
      cases h
      exact .nil _
  | cons m ms ih =>
      cases h with
      | field colon hkey hnode hfields => exact .cons colon hkey hnode (ih hfields)

variable {layout : List (RecordField σ)} {room : Nat}

theorem mem_names_of_find {field : RecordField σ} {name : String}
    (hfind : layout.find? (·.name == name) = some field) : name ∈ layout.map (·.name) := by
  have hname : field.name = name := by simpa using List.find?_some hfind
  exact List.mem_map.mpr ⟨field, List.mem_of_find?_eq_some hfind, hname⟩

theorem fieldsInto_passes {record mid : σ} {ms : Members}
    (hgathered : Gathered layout room record ms mid)
    (hunrepeated : Unrepeated (layout.map (·.name)) ms) {seen : List String}
    (hunseen : Unseen (layout.map (·.name)) seen ms) {fields rest : Fields}
    (hpasses : fields.Passes ms rest) :
    ∃ seen', readFieldsInto layout room seen record fields =
        readFieldsInto layout room seen' mid rest ∧
      ∀ name ∈ seen', name ∈ seen ∨ ∃ m ∈ ms, m.1.Denotes name := by
  induction hgathered generalizing seen fields with
  | nil record =>
      cases hpasses
      exact ⟨seen, rfl, fun name hname => .inl hname⟩
  | @unknown record mid key name v ms hkey hfind _ ih =>
      cases hpasses with
      | cons colon ht hnode hfields =>
          obtain ⟨seen', hread, hseen'⟩ := ih hunrepeated.tail
            (fun m hm => hunseen m (List.mem_cons_of_mem _ hm)) hfields
          refine ⟨seen', ?_, ?_⟩
          · simp [readFieldsInto, (Token.readKey_iff ht).mpr hkey, readNamedField, hfind,
              hnode.skip, hread, bind, Except.bind]
          · intro other hother
            rcases hseen' other hother with hold | ⟨m, hm, hdenotes⟩
            · exact .inl hold
            · exact .inr ⟨m, List.mem_cons_of_mem _ hm, hdenotes⟩
  | @known record next mid key name v ms field hkey hfind hfield _ ih =>
      cases hpasses with
      | cons colon ht hnode hfields =>
          have hmem := mem_names_of_find hfind
          have hnew : name ∉ seen := hunseen (key, v) List.mem_cons_self name hmem hkey
          -- the name counts as seen from here on, and no later member repeats it
          have hunseen' : Unseen (layout.map (·.name)) (name :: seen) ms := by
            intro m hm other hother hdenotes hseen
            rcases List.mem_cons.mp hseen with rfl | hseen
            · exact List.rel_of_pairwise_cons hunrepeated hm other hother hkey hdenotes
            · exact hunseen m (List.mem_cons_of_mem _ hm) other hother hdenotes hseen
          obtain ⟨seen', hread, hseen'⟩ := ih hunrepeated.tail hunseen' hfields
          refine ⟨seen', ?_, ?_⟩
          · simp [readFieldsInto, (Token.readKey_iff ht).mpr hkey, readNamedField, hfind, hnew,
              hfield _ hnode, within, hread, bind, Except.bind]
          · intro other hother
            rcases hseen' other hother with hold | ⟨m, hm, hdenotes⟩
            · rcases List.mem_cons.mp hold with rfl | hold
              · exact .inr ⟨_, List.mem_cons_self, hkey⟩
              · exact .inl hold
            · exact .inr ⟨m, List.mem_cons_of_mem _ hm, hdenotes⟩

theorem gathered_of_fieldsInto (hplaceless : ∀ field ∈ layout, field.Placeless)
    {ms : Members} {fields : Fields} (hfields : fields.Shows ms)
    {seen : List String} {record record' : σ}
    (hread : readFieldsInto layout room seen record fields = .ok record') :
    Gathered layout room record ms record' ∧ Unrepeated (layout.map (·.name)) ms ∧
      Unseen (layout.map (·.name)) seen ms := by
  induction ms generalizing fields seen record with
  | nil =>
      cases hfields
      cases hread
      exact ⟨.nil record, .nil, by simp [Unseen]⟩
  | cons m ms ih =>
      cases hfields with
      | @field t key colon node v fields _ ht hnode hfields =>
          rw [readFieldsInto] at hread
          obtain ⟨name, hname, hread⟩ := bind_eq_ok.mp hread
          have hkey := (Token.readKey_iff ht).mp hname
          obtain ⟨found, hfound, hread⟩ := bind_eq_ok.mp hread
          rw [readNamedField] at hfound
          cases hfind : layout.find? (·.name == name) with
          | none =>
              rw [hfind] at hfound
              cases hfound
              simp only [hnode.skip] at hread
              obtain ⟨hgathered, hunrepeated, hunseen⟩ := ih hfields hread
              -- the key is none of the names, so that this member repeats nothing
              have habsent : ∀ other ∈ layout.map (·.name), ¬ key.Denotes other := by
                intro other hother hdenotes
                obtain ⟨field, hfield, rfl⟩ := List.mem_map.mp hother
                have hne := List.find?_eq_none.mp hfind field hfield
                exact hne (by simp [hkey.unique hdenotes])
              refine ⟨.unknown v hkey hfind hgathered, .cons ?_ hunrepeated, ?_⟩
              · exact fun _ _ other hother hdenotes => absurd hdenotes (habsent other hother)
              · intro m hm other hother hdenotes
                rcases List.mem_cons.mp hm with rfl | hm
                · exact absurd hdenotes (habsent other hother)
                · exact hunseen m hm other hother hdenotes
          | some field =>
              simp only [hfind] at hfound
              split at hfound
              next => cases hfound
              next hnew =>
                cases hfound
                obtain ⟨mid, hmid, hread⟩ := bind_eq_ok.mp hread
                have hfield := hplaceless field (List.mem_of_find?_eq_some hfind) hnode
                  (within_eq_ok.mp hmid)
                obtain ⟨hgathered, hunrepeated, hunseen⟩ := ih hfields hread
                refine ⟨.known hkey hfind hfield hgathered, .cons ?_ hunrepeated, ?_⟩
                · intro m hm other hother hdenotes hdenotes'
                  obtain rfl := hkey.unique hdenotes
                  exact hunseen m hm _ hother hdenotes' List.mem_cons_self
                · intro m hm other hother hdenotes
                  rcases List.mem_cons.mp hm with rfl | hm
                  · obtain rfl := hkey.unique hdenotes
                    simpa using hnew
                  · exact fun hseen => hunseen m hm other hother hdenotes
                      (List.mem_cons_of_mem _ hseen)

/-! ## Fields by position -/

/-- The items of a list, read field by field, take a record to another one and leave some fields
unread. -/
inductive Filled (room : Nat) :
    List (RecordField σ) → σ → List Phrase → List (RecordField σ) → σ → Prop
  | nil (layout : List (RecordField σ)) (record : σ) : Filled room layout record [] layout record
  | cons {field : RecordField σ} {layout rest : List (RecordField σ)} {record mid record' : σ}
      {v : Phrase} {vs : List Phrase} : field.Accepts room v record mid →
      Filled room layout mid vs rest record' →
      Filled room (field :: layout) record (v :: vs) rest record'

theorem filled_append_iff {layout rest : List (RecordField σ)} {record record' : σ}
    {vs vs' : List Phrase} :
    Filled room layout record (vs ++ vs') rest record' ↔
      ∃ mid, Filled room layout record vs (layout.drop vs.length) mid ∧
        Filled room (layout.drop vs.length) mid vs' rest record' := by
  induction vs generalizing layout record with
  | nil =>
      constructor
      · exact fun h => ⟨record, .nil _ _, h⟩
      · rintro ⟨_, ⟨⟩, h⟩
        exact h
  | cons v vs ih =>
      constructor
      · rintro (_ | ⟨hfield, h⟩)
        obtain ⟨mid, hfront, hback⟩ := ih.mp h
        exact ⟨mid, .cons hfield hfront, hback⟩
      · rintro ⟨mid, hfront, hback⟩
        cases hfront with
        | cons hfield h => exact .cons hfield (ih.mpr ⟨mid, h, hback⟩)

theorem drop_eq_cons {α : Type} {xs : List α} {i : Nat} {x : α} (h : xs[i]? = some x) :
    xs.drop i = x :: xs.drop (i + 1) := by
  obtain ⟨hlt, rfl⟩ := List.getElem?_eq_some_iff.mp h
  exact List.drop_eq_getElem_cons hlt

/-- An item in the place of a field, with the items around it. -/
theorem filled_item_iff {layout rest : List (RecordField σ)} {record record' : σ}
    {before after : List Phrase} {field : RecordField σ}
    (hfield : layout[before.length]? = some field) {v : Phrase} :
    Filled room layout record (before ++ v :: after) rest record' ↔
      ∃ mid mid', Filled room layout record before (layout.drop before.length) mid ∧
        field.Accepts room v mid mid' ∧
        Filled room (layout.drop (before.length + 1)) mid' after rest record' := by
  have hdrop := drop_eq_cons hfield
  rw [filled_append_iff]
  constructor
  · rintro ⟨mid, hbefore, hbehind⟩
    rw [hdrop] at hbehind
    cases hbehind with
    | @cons _ _ _ _ mid' _ _ _ hread hafter => exact ⟨mid, mid', hbefore, hread, hafter⟩
  · rintro ⟨mid, mid', hbefore, hread, hafter⟩
    refine ⟨mid, hbefore, ?_⟩
    rw [hdrop]
    exact .cons hread hafter

theorem itemsInto_passes {remaining : List (RecordField σ)} {record mid : σ} {vs : List Phrase}
    (hfilled : Filled room layout record vs remaining mid) {items rest : Items}
    (hpasses : items.Passes vs rest) (index : Nat) :
    readItemsInto room index record layout items =
      readItemsInto room (index + vs.length) mid remaining rest := by
  induction hfilled generalizing items index with
  | nil layout record =>
      cases hpasses
      rfl
  | @cons field layout remaining record next mid v vs hfield _ ih =>
      cases hpasses with
      | cons hnode hitems =>
          rw [readItemsInto, hfield _ hnode, List.length_cons, Nat.add_comm vs.length,
            ← Nat.add_assoc]
          exact ih hitems (index + 1)

theorem filled_of_itemsInto (hplaceless : ∀ field ∈ layout, field.Placeless) {vs : List Phrase}
    {items : Items} (hitems : items.Shows vs) {index : Nat} {record record' : σ}
    (hread : readItemsInto room index record layout items = .ok record') :
    ∃ rest, Filled room layout record vs rest record' := by
  induction layout generalizing vs items index record with
  | nil =>
      cases hitems with
      | closed =>
          cases hread
          exact ⟨[], .nil _ _⟩
      | item => cases hread
  | cons field layout ih =>
      cases hitems with
      | closed =>
          cases hread
          exact ⟨_, .nil _ _⟩
      | item hnode hrest =>
          obtain ⟨mid, hmid, hread⟩ := bind_eq_ok.mp hread
          have hfield := hplaceless field List.mem_cons_self hnode (within_eq_ok.mp hmid)
          obtain ⟨rest, hfilled⟩ :=
            ih (fun f hf => hplaceless f (List.mem_cons_of_mem _ hf)) hrest hread
          exact ⟨rest, .cons hfield hfilled⟩

/-! ## Records -/

variable {label : String} {empty : σ}

theorem accepts_object {ms : Members} {record : σ}
    (hgathered : Gathered layout room empty ms record)
    (hunrepeated : Unrepeated (layout.map (·.name)) ms) :
    (NodeReader.record label layout empty).Accepts (room + 1) (.object ms) record := by
  rintro _ (_ | _ | ⟨bracket, hfields⟩)
  have hunseen : Unseen (layout.map (·.name)) [] ms := by simp [Unseen]
  obtain ⟨seen, hread, _⟩ := fieldsInto_passes hgathered hunrepeated hunseen hfields.passes
  rw [NodeReader.record, hread]
  rfl

theorem accepts_object_iff (hplaceless : ∀ field ∈ layout, field.Placeless)
    {ms : Members} {record : σ} :
    (NodeReader.record label layout empty).Accepts room (.object ms) record ↔
      ∃ inner, room = inner + 1 ∧ Gathered layout inner empty ms record ∧
        Unrepeated (layout.map (·.name)) ms := by
  constructor
  · intro h
    obtain ⟨node, hnode⟩ := (Phrase.object ms).exists_node
    have hread := h node hnode
    cases hnode with
    | object bracket hfields =>
        cases room with
        | zero => cases hread
        | succ room =>
            obtain ⟨hgathered, hunrepeated, _⟩ := gathered_of_fieldsInto hplaceless hfields hread
            exact ⟨room, rfl, hgathered, hunrepeated⟩
  · rintro ⟨room, rfl, hgathered, hunrepeated⟩
    exact accepts_object hgathered hunrepeated

theorem accepts_positions_iff (hplaceless : ∀ field ∈ layout, field.Placeless)
    {vs : List Phrase} {record : σ} :
    (NodeReader.record label layout empty).Accepts room (.list vs) record ↔
      ∃ inner, room = inner + 1 ∧ ∃ rest, Filled inner layout empty vs rest record := by
  constructor
  · intro h
    obtain ⟨node, hnode⟩ := (Phrase.list vs).exists_node
    have hread := h node hnode
    cases hnode with
    | list bracket hitems =>
        cases room with
        | zero => cases hread
        | succ room => exact ⟨room, rfl, filled_of_itemsInto hplaceless hitems hread⟩
  · rintro ⟨room, rfl, rest, hfilled⟩ _ (_ | ⟨bracket, hitems⟩)
    rw [NodeReader.record, itemsInto_passes hfilled hitems.passes]
    cases rest <;> rfl

theorem placeless_record (hplaceless : ∀ field ∈ layout, field.Placeless) :
    (NodeReader.record label layout empty).Placeless := by
  intro room node v record hnode hread
  cases room with
  | zero => cases hnode <;> cases hread
  | succ room =>
      cases hnode with
      | scalar => cases hread
      | list bracket hitems =>
          have hfilled := filled_of_itemsInto hplaceless hitems hread
          exact (accepts_positions_iff hplaceless).mpr ⟨room, rfl, hfilled⟩
      | object bracket hfields =>
          obtain ⟨hgathered, hunrepeated, _⟩ := gathered_of_fieldsInto hplaceless hfields hread
          exact accepts_object hgathered hunrepeated

theorem careful_fieldsInto (hcareful : ∀ field ∈ layout, field.Careful) :
    ∀ (fields : Fields) {seen : List String} {record record' : σ},
      readFieldsInto layout room seen record fields = .ok record' → fields.skip = .ok ()
  | .done ending, seen, record, _, hread => by
      cases ending with
      | closed | cut => rfl
      | noSeparator | noKey => cases hread
      | noColon key found =>
          obtain ⟨name, hname, hread⟩ := bind_eq_ok.mp hread
          obtain ⟨_, _, hread⟩ := bind_eq_ok.mp hread
          obtain ⟨_, hcolon, _⟩ := bind_eq_ok.mp hread
          exact ObjectEnd.skip_noColon hname hcolon
  | .field key colon node rest, seen, record, _, hread => by
      rw [readFieldsInto] at hread
      obtain ⟨name, hname, hread⟩ := bind_eq_ok.mp hread
      obtain ⟨found, hfound, hread⟩ := bind_eq_ok.mp hread
      have hkey := Token.skip_of_readKey hname
      cases found with
      | none =>
          simp only at hread
          split at hread
          next hskip =>
            simp [Fields.skip, hkey, hskip, careful_fieldsInto hcareful rest hread, bind,
              Except.bind]
          next => cases hread
      | some field =>
          obtain ⟨mid, hmid, hread⟩ := bind_eq_ok.mp hread
          have hfield : field ∈ layout := by
            rw [readNamedField] at hfound
            cases hfind : layout.find? (·.name == name) with
            | none => simp [hfind] at hfound
            | some other =>
                simp only [hfind] at hfound
                split at hfound <;> cases hfound
                exact List.mem_of_find?_eq_some hfind
          simp [Fields.skip, hkey, hcareful field hfield (within_eq_ok.mp hmid),
            careful_fieldsInto hcareful rest hread, bind, Except.bind]

theorem careful_itemsInto : ∀ {layout : List (RecordField σ)},
    (∀ field ∈ layout, field.Careful) → ∀ (items : Items) {index : Nat} {record record' : σ},
      readItemsInto room index record layout items = .ok record' → items.skip = .ok ()
  | [], _, .done ending, _, _, _, hread => by
      cases ending with
      | closed | cut => rfl
      | noSeparator | noItem => cases hread
  | [], _, .item _ _, _, _, _, hread => by cases hread
  | _ :: _, _, .done ending, _, _, _, hread => by
      obtain ⟨_, hending, _⟩ := map_eq_ok.mp hread
      exact ending.skip_of_read hending
  | field :: layout, hcareful, .item node rest, _, _, _, hread => by
      obtain ⟨mid, hmid, hread⟩ := bind_eq_ok.mp hread
      have hrest :=
        careful_itemsInto (fun f hf => hcareful f (List.mem_cons_of_mem _ hf)) rest hread
      simp [Items.skip, hcareful field List.mem_cons_self (within_eq_ok.mp hmid), hrest, bind,
        Except.bind]

theorem careful_record (hcareful : ∀ field ∈ layout, field.Careful) :
    (NodeReader.record label layout empty).Careful := by
  intro room node record hread
  cases node with
  | leaf t => cases hread
  | list bracket items =>
      cases room with
      | zero => cases hread
      | succ room => exact careful_itemsInto hcareful items hread
  | object bracket fields =>
      cases room with
      | zero => cases hread
      | succ room => exact careful_fieldsInto hcareful fields hread

end Typings.Json
