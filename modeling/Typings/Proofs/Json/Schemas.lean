import Typings.Proofs.Json.RecordReaders

/-! # Schemas

What kind of value belongs in which place of a document, and the readers that are built
accordingly. A reader may take `null` in place of a value; its schema does not tell.
-/

namespace Typings.Json

inductive Schema where
  | text
  | boolean
  | any
  | list (item : Schema)
  | record (fields : List (String × Schema))

namespace RecordField

variable {σ : Type}

/-- Two fields may be read in either order. -/
def Commutes (f g : RecordField σ) : Prop :=
  ∀ {room : Nat} {node node' : Node} {record record' : σ},
    (f.read room node record >>= g.read room node') = .ok record' ↔
      (g.read room node' record >>= f.read room node) = .ok record'

instance : @Std.Symm (RecordField σ) Commutes where
  symm _ _ h := Iff.symm h

variable {α : Type} {reader : NodeReader α} {name : String} {put : α → σ → σ}

theorem of_read_eq_ok {room : Nat} {node : Node} {record record' : σ} :
    (RecordField.of name reader put).read room node record = .ok record' ↔
      ∃ a, reader room node = .ok a ∧ put a record = record' :=
  map_eq_ok

theorem of_commutes {β : Type} {reader' : NodeReader β} {name' : String} {put' : β → σ → σ}
    (hput : ∀ a b record, put' b (put a record) = put a (put' b record)) :
    (RecordField.of name reader put).Commutes (.of name' reader' put') := by
  intro room node node' record record'
  simp only [bind_eq_ok, of_read_eq_ok]
  constructor
  · rintro ⟨_, ⟨a, ha, rfl⟩, b, hb, rfl⟩
    exact ⟨_, ⟨b, hb, rfl⟩, a, ha, (hput a b record).symm⟩
  · rintro ⟨_, ⟨b, hb, rfl⟩, a, ha, rfl⟩
    exact ⟨_, ⟨a, ha, rfl⟩, b, hb, hput a b record⟩

theorem placeless_of (hplaceless : reader.Placeless) :
    (RecordField.of name reader put).Placeless := by
  intro room node v record record' hnode hread node' hnode'
  obtain ⟨a, ha, hput⟩ := of_read_eq_ok.mp hread
  exact of_read_eq_ok.mpr ⟨a, hplaceless hnode ha node' hnode', hput⟩

theorem careful_of (hcareful : reader.Careful) : (RecordField.of name reader put).Careful := by
  intro room node record record' hread
  obtain ⟨a, ha, _⟩ := of_read_eq_ok.mp hread
  exact hcareful ha

theorem accepts_of_iff (hplaceless : reader.Placeless) {room : Nat} {v : Phrase}
    {record record' : σ} :
    (RecordField.of name reader put).Accepts room v record record' ↔
      ∃ a, reader.Accepts room v a ∧ put a record = record' := by
  constructor
  · intro h
    obtain ⟨node, hnode⟩ := v.exists_node
    obtain ⟨a, ha, hput⟩ := of_read_eq_ok.mp (h node hnode)
    exact ⟨a, hplaceless hnode ha, hput⟩
  · rintro ⟨a, ha, hput⟩ node hnode
    exact of_read_eq_ok.mpr ⟨a, ha node hnode, hput⟩

theorem accepts_of_congr (hplaceless : reader.Placeless) {room : Nat} {v w : Phrase}
    (hsame : ∀ a, reader.Accepts room v a → reader.Accepts room w a) {record record' : σ}
    (h : (RecordField.of name reader put).Accepts room v record record') :
    (RecordField.of name reader put).Accepts room w record record' := by
  obtain ⟨a, ha, hput⟩ := (accepts_of_iff hplaceless).mp h
  exact (accepts_of_iff hplaceless).mpr ⟨a, hsame a ha, hput⟩

end RecordField

/-! ## Readers of a schema -/

mutual

/-- The reader takes the values of the schema apart. -/
inductive Follows : {α : Type} → NodeReader α → Schema → Prop
  | text : Follows NodeReader.text .text
  | boolean : Follows NodeReader.boolean .boolean
  | value : Follows NodeReader.value .any
  | optional {α : Type} {reader : NodeReader α} {s : Schema} :
      Follows reader s → Follows reader.optional s
  | list {α : Type} {reader : NodeReader α} {s : Schema} :
      Follows reader s → Follows reader.list (.list s)
  | record (label : String) {σ : Type} {layout : List (RecordField σ)} (empty : σ)
      {fields : List (String × Schema)} : LayoutFollows layout fields →
      (fields.map (·.1)).Nodup → layout.Pairwise RecordField.Commutes →
      Follows (NodeReader.record label layout empty) (.record fields)

/-- The fields of the layout are those of the schema, in the same order. -/
inductive LayoutFollows : {σ : Type} → List (RecordField σ) → List (String × Schema) → Prop
  | nil {σ : Type} : LayoutFollows ([] : List (RecordField σ)) []
  | cons {σ α : Type} {name : String} {reader : NodeReader α} {put : α → σ → σ} {s : Schema}
      {layout : List (RecordField σ)} {fields : List (String × Schema)} : Follows reader s →
      LayoutFollows layout fields →
      LayoutFollows (.of name reader put :: layout) ((name, s) :: fields)

end

/-- One by one, the fields of a layout have the names of a schema and read their values in a way
that suits it. -/
def FieldsAre (P : {α : Type} → NodeReader α → Schema → Prop) {σ : Type}
    (layout : List (RecordField σ)) (fields : List (String × Schema)) : Prop :=
  List.Forall₂ (fun field named => ∃ (α : Type) (reader : NodeReader α) (put : α → σ → σ),
    field = .of named.1 reader put ∧ P reader named.2) layout fields

namespace FieldsAre

variable {P : {α : Type} → NodeReader α → Schema → Prop} {σ : Type} {layout : List (RecordField σ)}
  {fields : List (String × Schema)}

theorem names (h : FieldsAre P layout fields) : layout.map (·.name) = fields.map (·.1) := by
  induction h with
  | nil => rfl
  | cons hfield _ ih =>
      obtain ⟨α, reader, put, rfl, _⟩ := hfield
      rw [List.map_cons, List.map_cons, ih]
      rfl

theorem of_mem (h : FieldsAre P layout fields) {field : RecordField σ} (hfield : field ∈ layout) :
    ∃ (name : String) (s : Schema) (α : Type) (reader : NodeReader α) (put : α → σ → σ),
      field = .of name reader put ∧ P reader s := by
  induction h with
  | nil => cases hfield
  | cons hhead _ ih =>
      rcases List.mem_cons.mp hfield with rfl | hfield
      · exact ⟨_, _, hhead⟩
      · exact ih hfield

theorem find (h : FieldsAre P layout fields) (hnodup : (fields.map (·.1)).Nodup) {name : String}
    {s : Schema} (hmem : (name, s) ∈ fields) :
    ∃ (α : Type) (reader : NodeReader α) (put : α → σ → σ),
      layout.find? (·.name == name) = some (.of name reader put) ∧ P reader s := by
  induction h with
  | nil => cases hmem
  | @cons field named layout fields hhead _ ih =>
      obtain ⟨α, reader, put, rfl, hreader⟩ := hhead
      rw [List.map_cons, List.nodup_cons] at hnodup
      rcases List.mem_cons.mp hmem with rfl | hmem
      · exact ⟨α, reader, put, by simp [RecordField.of], hreader⟩
      · have hne : named.1 ≠ name := by
          rintro rfl
          exact hnodup.1 (List.mem_map.mpr ⟨_, hmem, rfl⟩)
        rw [List.find?_cons_of_neg (by simpa [RecordField.of] using hne)]
        exact ih hnodup.2 hmem

theorem getElem? (h : FieldsAre P layout fields) {i : Nat} {name : String} {s : Schema}
    (hget : fields[i]? = some (name, s)) :
    ∃ (α : Type) (reader : NodeReader α) (put : α → σ → σ),
      layout[i]? = some (.of name reader put) ∧ P reader s := by
  induction h generalizing i with
  | nil => cases hget
  | cons hhead _ ih =>
      cases i with
      | zero =>
          cases hget
          obtain ⟨α, reader, put, rfl, hreader⟩ := hhead
          exact ⟨α, reader, put, rfl, hreader⟩
      | succ i => exact ih hget

theorem placeless (h : FieldsAre P layout fields)
    (hP : ∀ {α : Type} {reader : NodeReader α} {s : Schema}, P reader s → reader.Placeless) :
    ∀ field ∈ layout, field.Placeless := by
  intro field hfield
  obtain ⟨_, _, _, _, _, rfl, hreader⟩ := h.of_mem hfield
  exact RecordField.placeless_of (hP hreader)

end FieldsAre

/-- Readers of a schema, by what they read. Of the readers of the fields of a record, each one
follows the schema of its field and has what is proved. -/
theorem Follows.induct
    {motive : {α : Type} → (reader : NodeReader α) → (s : Schema) → Follows reader s → Prop}
    (text : motive NodeReader.text .text .text)
    (boolean : motive NodeReader.boolean .boolean .boolean)
    (value : motive NodeReader.value .any .value)
    (optional : ∀ {α : Type} {reader : NodeReader α} {s : Schema} (h : Follows reader s),
      motive reader s h → motive reader.optional s (.optional h))
    (list : ∀ {α : Type} {reader : NodeReader α} {s : Schema} (h : Follows reader s),
      motive reader s h → motive reader.list (.list s) (.list h))
    (record : ∀ {label : String} {σ : Type} {layout : List (RecordField σ)} {empty : σ}
      {fields : List (String × Schema)} (h : LayoutFollows layout fields)
      (hnodup : (fields.map (·.1)).Nodup) (hcommutes : layout.Pairwise RecordField.Commutes),
      FieldsAre (fun reader s => ∃ h : Follows reader s, motive reader s h) layout fields →
      motive (NodeReader.record label layout empty) (.record fields)
        (.record label empty h hnodup hcommutes))
    {α : Type} {reader : NodeReader α} {s : Schema} (h : Follows reader s) : motive reader s h :=
  @Follows.rec (fun reader s h => motive reader s h)
    (fun layout fields _ =>
      FieldsAre (fun reader s => ∃ h : Follows reader s, motive reader s h) layout fields)
    text boolean value optional list
    (fun _ _ _ _ _ h hnodup hcommutes ih => record h hnodup hcommutes ih)
    .nil (fun h _ ih ihrest => .cons ⟨_, _, _, rfl, h, ih⟩ ihrest) _ _ _ h

theorem Follows.placeless {α : Type} {reader : NodeReader α} {s : Schema} (h : Follows reader s) :
    reader.Placeless := by
  induction h using Follows.induct with
  | text => exact placeless_text
  | boolean => exact placeless_boolean
  | value => exact placeless_value
  | optional _ ih => exact placeless_optional ih
  | list _ ih => exact placeless_list ih
  | record _ _ _ ih => exact placeless_record (ih.placeless fun ⟨_, hreader⟩ => hreader)

theorem LayoutFollows.placeless {σ : Type} : ∀ {layout : List (RecordField σ)}
    {fields : List (String × Schema)}, LayoutFollows layout fields →
    ∀ field ∈ layout, field.Placeless
  | _, _, .nil => by simp
  | _, _, .cons h h' =>
      List.forall_mem_cons.mpr ⟨RecordField.placeless_of h.placeless, h'.placeless⟩

theorem Follows.careful {α : Type} {reader : NodeReader α} {s : Schema} (h : Follows reader s) :
    reader.Careful := by
  induction h using Follows.induct with
  | text => exact careful_text
  | boolean => exact careful_boolean
  | value => exact careful_value
  | optional _ ih => exact careful_optional ih
  | list _ ih => exact careful_list ih
  | record _ _ _ ih =>
      apply careful_record
      intro field hfield
      obtain ⟨_, _, _, _, _, rfl, _, hreader⟩ := ih.of_mem hfield
      exact RecordField.careful_of hreader

/-! ## Places in a value -/

/-- What surrounds a value in the list or the object that it belongs to. -/
inductive Frame where
  | item (before after : List Phrase)
  | member (before : Members) (key : TextLiteral) (after : Members)

def Frame.plug : Frame → Phrase → Phrase
  | item before after, v => .list (before ++ v :: after)
  | member before key after, v => .object (before ++ (key, v) :: after)

/-- The value within the frames, the first of which is the outermost. -/
def plug (frames : List Frame) (v : Phrase) : Phrase := frames.foldr Frame.plug v

/-- In a document of a schema, a value within the frames is at the end of the path, where a value
of another schema belongs. Records are written as objects or as lists. -/
inductive Leads : Schema → List Frame → List Step → Schema → Prop
  | here (s : Schema) : Leads s [] [] s
  | item {s t : Schema} {frames : List Frame} {steps : List Step} (before after : List Phrase) :
      Leads s frames steps t →
      Leads (.list s) (.item before after :: frames) (.index before.length :: steps) t
  | member {fields : List (String × Schema)} {name : String} {s t : Schema} {frames : List Frame}
      {steps : List Step} {key : TextLiteral} (before after : Members) :
      (name, s) ∈ fields → key.Denotes name → Leads s frames steps t →
      Leads (.record fields) (.member before key after :: frames) (.key name :: steps) t
  | position {fields : List (String × Schema)} {name : String} {s t : Schema}
      {frames : List Frame} {steps : List Step} {before : List Phrase} (after : List Phrase) :
      fields[before.length]? = some (name, s) → Leads s frames steps t →
      Leads (.record fields) (.item before after :: frames) (.index before.length :: steps) t

@[simp]
theorem plug_item (before after : List Phrase) (frames : List Frame) (v : Phrase) :
    plug (.item before after :: frames) v = .list (before ++ plug frames v :: after) :=
  rfl

@[simp]
theorem plug_member (before : Members) (key : TextLiteral) (after : Members)
    (frames : List Frame) (v : Phrase) :
    plug (.member before key after :: frames) v =
      .object (before ++ (key, plug frames v) :: after) :=
  rfl

theorem plug_not_null (frame : Frame) (frames : List Frame) (v : Phrase) :
    ¬ (plug (frame :: frames) v).IsNull := by
  cases frame <;> exact id

end Typings.Json
