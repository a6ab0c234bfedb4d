import Typings.Proofs.DocumentationText
import Typings.Proofs.Json.Writing

/-! # Entries as they are written

Documentation that is written out, with every choice that this leaves, is read back as it was.
-/

namespace Typings.Json

/-! ## Records -/

/-- The fields of a record, each with its name and with the values that may be written for it;
`none` where it may be left out. -/
abbrev RecordForm := List (String × (Option Phrase → Prop))

/-- The members give the fields of a record, in any order. Other members may stand between them. -/
structure WrittenRecord (form : RecordForm) (ms : Members) : Prop where
  readable : ∀ m ∈ ms, ∃ name, m.1.Denotes name
  unrepeated : Unrepeated (form.map (·.1)) ms
  given : ∀ named ∈ form, ∀ m ∈ ms, m.1.Denotes named.1 → named.2 (some m.2)
  omitted : ∀ named ∈ form, (∀ m ∈ ms, ¬ m.1.Denotes named.1) → named.2 none

section Records

variable {σ : Type}

/-- Reading the field adds it to the part of a record that has been read. -/
def ReadsInto (room : Nat) (part : List String → σ) (field : RecordField σ)
    (named : String × (Option Phrase → Prop)) : Prop :=
  field.name = named.1 ∧ ∀ v, named.2 (some v) → ∀ seen,
    field.Accepts room v (part seen) (part (named.1 :: seen))

theorem readsInto_of {α : Type} {room : Nat} {part : List String → σ} {name : String}
    {reader : NodeReader α} {put : α → σ → σ} {written : Option Phrase → Prop} {a : α}
    (haccepts : ∀ v, written (some v) → reader.Accepts room v a)
    (hput : ∀ seen, put a (part seen) = part (name :: seen)) :
    ReadsInto room part (.of name reader put) (name, written) :=
  ⟨rfl, fun v hv seen node hnode =>
    RecordField.of_read_eq_ok.mpr ⟨a, haccepts v hv node hnode, hput seen⟩⟩

variable {layout : List (RecordField σ)} {form : RecordForm} {room : Nat} {part : List String → σ}

theorem form_of_find (hfields : List.Forall₂ (ReadsInto room part) layout form)
    {field : RecordField σ} {name : String}
    (hfind : layout.find? (·.name == name) = some field) :
    ∃ written, (name, written) ∈ form ∧ ReadsInto room part field (name, written) := by
  induction hfields with
  | nil => cases hfind
  | @cons head named layout form hhead _ ih =>
      by_cases hname : head.name = name
      · rw [List.find?_cons_of_pos (by simpa using hname)] at hfind
        cases hfind
        obtain rfl : named.1 = name := hhead.1.symm.trans hname
        exact ⟨named.2, List.mem_cons_self, hhead⟩
      · rw [List.find?_cons_of_neg (by simpa using hname)] at hfind
        obtain ⟨written, hmem, hreads⟩ := ih hfind
        exact ⟨written, List.mem_cons_of_mem _ hmem, hreads⟩

theorem form_names (hfields : List.Forall₂ (ReadsInto room part) layout form) :
    layout.map (·.name) = form.map (·.1) := by
  induction hfields with
  | nil => rfl
  | cons hhead _ ih => rw [List.map_cons, List.map_cons, hhead.1, ih]

theorem gathered_of_written (hfields : List.Forall₂ (ReadsInto room part) layout form)
    {ms : Members} (hreadable : ∀ m ∈ ms, ∃ name, m.1.Denotes name)
    (hgiven : ∀ named ∈ form, ∀ m ∈ ms, m.1.Denotes named.1 → named.2 (some m.2))
    (seen : List String) :
    ∃ seen', Gathered layout room (part seen) ms (part seen') ∧ seen ⊆ seen' ∧
      ∀ named ∈ form, ∀ m ∈ ms, m.1.Denotes named.1 → named.1 ∈ seen' := by
  induction ms generalizing seen with
  | nil => exact ⟨seen, .nil _, fun _ h => h, by simp⟩
  | cons m ms ih =>
      -- the record that has been read is the part of the names so far
      obtain ⟨key, v⟩ := m
      obtain ⟨name, hkey⟩ := hreadable (key, v) List.mem_cons_self
      have ih := ih (fun m hm => hreadable m (List.mem_cons_of_mem _ hm))
        (fun named hnamed m hm => hgiven named hnamed m (List.mem_cons_of_mem _ hm))
      cases hfind : layout.find? (·.name == name) with
      | none =>
          obtain ⟨seen', hgathered, hsubset, hseen'⟩ := ih seen
          refine ⟨seen', .unknown v hkey hfind hgathered, hsubset, ?_⟩
          intro named hnamed m hm hdenotes
          rcases List.mem_cons.mp hm with rfl | hm
          · obtain rfl := hkey.unique hdenotes
            have hmem : named.1 ∈ layout.map (·.name) := by
              rw [form_names hfields]
              exact List.mem_map_of_mem hnamed
            obtain ⟨field, hfield, hname⟩ := List.mem_map.mp hmem
            exact absurd hname (by simpa using List.find?_eq_none.mp hfind field hfield)
          · exact hseen' named hnamed m hm hdenotes
      | some field =>
          obtain ⟨written, hmem, _, hreads⟩ := form_of_find hfields hfind
          have hwritten := hgiven _ hmem _ List.mem_cons_self hkey
          obtain ⟨seen', hgathered, hsubset, hseen'⟩ := ih (name :: seen)
          refine ⟨seen', .known hkey hfind (hreads v hwritten seen) hgathered, ?_, ?_⟩
          · exact fun other hother => hsubset (List.mem_cons_of_mem _ hother)
          · intro named hnamed m hm hdenotes
            rcases List.mem_cons.mp hm with rfl | hm
            · obtain rfl := hkey.unique hdenotes
              exact hsubset List.mem_cons_self
            · exact hseen' named hnamed m hm hdenotes

/-- A record is read back if every field is read into the part that came before, and if fields may
be left out only where this makes no difference. -/
theorem accepts_written {label : String} {empty record : σ} (part : List String → σ)
    (hempty : part [] = empty) (hfields : List.Forall₂ (ReadsInto room part) layout form)
    (hcomplete : ∀ seen, (∀ named ∈ form, named.1 ∉ seen → named.2 none) → part seen = record)
    {ms : Members} (hwritten : WrittenRecord form ms) :
    (NodeReader.record label layout empty).Accepts (room + 1) (.object ms) record := by
  obtain ⟨seen, hgathered, _, hseen⟩ :=
    gathered_of_written hfields hwritten.readable hwritten.given []
  rw [hempty] at hgathered
  have hpart : part seen = record := by
    refine hcomplete seen fun named hnamed hunseen => hwritten.omitted named hnamed ?_
    exact fun m hm hdenotes => hunseen (hseen named hnamed m hm hdenotes)
  refine accepts_object (hpart ▸ hgathered) ?_
  rw [form_names hfields]
  exact hwritten.unrepeated

end Records

theorem Unrepeated.of_absent {name : String} {names : List String}
    {ms : Members} (h : Unrepeated names ms)
    (habsent : ∀ m ∈ ms, ¬ m.1.Denotes name) : Unrepeated (name :: names) ms := by
  refine List.Pairwise.imp_of_mem ?_ h
  intro m m' hm _ hnames other hother hdenotes
  rcases List.mem_cons.mp hother with rfl | hother
  · exact absurd hdenotes (habsent m hm)
  · exact hnames other hother hdenotes

/-- A record can be written if each of its fields can. -/
theorem exists_writtenRecord (form : RecordForm) (hnodup : (form.map (·.1)).Nodup)
    (hform : ∀ named ∈ form, ∃ v, named.2 v) :
    ∃ ms, WrittenRecord form ms ∧ ∀ m ∈ ms, ∃ name ∈ form.map (·.1), m.1.Denotes name := by
  induction form with
  | nil => exact ⟨[], ⟨by simp, .nil, by simp, by simp⟩, by simp⟩
  | cons named form ih =>
      rw [List.map_cons, List.nodup_cons] at hnodup
      obtain ⟨ms, hms, hnames⟩ := ih hnodup.2 fun other h => hform other (List.mem_cons_of_mem _ h)
      have habsent : ∀ m ∈ ms, ¬ m.1.Denotes named.1 := by
        intro m hm hdenotes
        obtain ⟨name, hname, hdenotes'⟩ := hnames m hm
        exact hnodup.1 (hdenotes.unique hdenotes' ▸ hname)
      have hnames' : ∀ m ∈ ms, ∃ name ∈ (named :: form).map (·.1), m.1.Denotes name := by
        intro m hm
        obtain ⟨name, hname, hdenotes⟩ := hnames m hm
        exact ⟨name, List.mem_cons_of_mem _ hname, hdenotes⟩
      obtain ⟨v, hv⟩ := hform named List.mem_cons_self
      cases v with
      | none =>
          refine ⟨ms, ⟨hms.readable, hms.unrepeated.of_absent habsent, ?_, ?_⟩, hnames'⟩
          · intro other hother m hm hdenotes
            rcases List.mem_cons.mp hother with rfl | hother
            · exact absurd hdenotes (habsent m hm)
            · exact hms.given other hother m hm hdenotes
          · intro other hother hnone
            rcases List.mem_cons.mp hother with rfl | hother
            · exact hv
            · exact hms.omitted other hother hnone
      | some v =>
          have hkey := TextLiteral.ofString_denotes named.1
          refine ⟨(.ofString named.1, v) :: ms, ⟨?_, .cons ?_ ?_, ?_, ?_⟩, ?_⟩
          · exact List.forall_mem_cons.mpr ⟨⟨_, hkey⟩, hms.readable⟩
          · intro m hm other _ hdenotes hdenotes'
            exact habsent m hm (hkey.unique hdenotes ▸ hdenotes')
          · exact hms.unrepeated.of_absent habsent
          · intro other hother m hm hdenotes
            rcases List.mem_cons.mp hother with rfl | hother
            · rcases List.mem_cons.mp hm with rfl | hm
              · exact hv
              · exact absurd hdenotes (habsent m hm)
            · rcases List.mem_cons.mp hm with rfl | hm
              · have hname := hkey.unique hdenotes
                exact absurd (hname ▸ List.mem_map_of_mem hother) hnodup.1
              · exact hms.given other hother m hm hdenotes
          · intro other hother hnone
            rcases List.mem_cons.mp hother with rfl | hother
            · exact absurd hkey (hnone _ List.mem_cons_self)
            · exact hms.omitted other hother fun m hm => hnone m (List.mem_cons_of_mem _ hm)
          · exact List.forall_mem_cons.mpr ⟨⟨_, List.mem_cons_self, hkey⟩, hnames'⟩

/-! ## Values -/

def WrittenText (s : String) (v : Phrase) : Prop :=
  ∃ l : TextLiteral, v = .scalar (.text l) ∧ l.Denotes s

def WrittenBoolean (b : Bool) (v : Phrase) : Prop := v = .scalar (.boolean b)

def WrittenInteger (i : Int) (v : Phrase) : Prop :=
  ∃ n : NumberText, v = .scalar (.number n) ∧ n.IsInteger i

def WrittenList {α : Type} (written : α → Phrase → Prop) (as : List α) (v : Phrase) : Prop :=
  ∃ vs, v = .list vs ∧ List.Forall₂ written as vs

/-- A value that may be absent, and then is left out or written as `null`. -/
def WrittenOptional {α : Type} (written : α → Phrase → Prop) : Option α → Option Phrase → Prop
  | none, none => True
  | none, some v => v = .scalar .null
  | some _, none => False
  | some a, some v => written a v

/-- A value that may be left out where it is the default. -/
def WrittenOrDefault {α : Type} (written : α → Phrase → Prop) (default a : α) :
    Option Phrase → Prop
  | none => a = default
  | some v => written a v

theorem WrittenText.accepts {s : String} {room : Nat} {v : Phrase} (h : WrittenText s v) :
    NodeReader.text.Accepts room v s :=
  fun _ hnode => (text_of_shows hnode).mpr h

theorem WrittenBoolean.accepts {b : Bool} {room : Nat} {v : Phrase} (h : WrittenBoolean b v) :
    NodeReader.boolean.Accepts room v b :=
  fun _ hnode => (boolean_of_shows hnode).mpr h

theorem WrittenList.accepts {α : Type} {reader : NodeReader α}
    {written : α → Phrase → Prop} {room : Nat} {as : List α}
    (haccepts : ∀ a ∈ as, ∀ v, written a v → reader.Accepts room v a) {v : Phrase}
    (h : WrittenList written as v) : reader.list.Accepts (room + 1) v as := by
  obtain ⟨vs, rfl, hitems⟩ := h
  refine accepts_list ?_
  induction hitems with
  | nil => exact .nil
  | cons hhead _ ih =>
      exact .cons (haccepts _ List.mem_cons_self _ hhead)
        (ih fun a ha => haccepts a (List.mem_cons_of_mem _ ha))

theorem exists_writtenText (s : String) : ∃ v, WrittenText s v :=
  ⟨_, .ofString s, rfl, TextLiteral.ofString_denotes s⟩

theorem exists_writtenInteger (i : Int) : ∃ v, WrittenInteger i v :=
  ⟨_, .ofInt i, rfl, NumberText.ofInt_isInteger i⟩

theorem exists_writtenList {α : Type} {written : α → Phrase → Prop} {as : List α}
    (h : ∀ a ∈ as, ∃ v, written a v) : ∃ v, WrittenList written as v := by
  induction as with
  | nil => exact ⟨_, [], rfl, .nil⟩
  | cons a as ih =>
      obtain ⟨v, hv⟩ := h a List.mem_cons_self
      obtain ⟨_, vs, rfl, hvs⟩ := ih fun b hb => h b (List.mem_cons_of_mem _ hb)
      exact ⟨_, v :: vs, rfl, .cons hv hvs⟩

theorem exists_writtenOptional {α : Type} {written : α → Phrase → Prop} {a : Option α}
    (h : ∀ x, a = some x → ∃ v, written x v) : ∃ v, WrittenOptional written a v := by
  cases a with
  | none => exact ⟨none, trivial⟩
  | some x =>
      obtain ⟨v, hv⟩ := h x rfl
      exact ⟨some v, hv⟩

theorem exists_writtenOrDefault {α : Type} {written : α → Phrase → Prop} {default a : α}
    (h : ∃ v, written a v) : ∃ v, WrittenOrDefault written default a v := by
  obtain ⟨v, hv⟩ := h
  exact ⟨some v, hv⟩

/-- None of the values is written as `null`. -/
def NeverNull {α : Type} (written : α → Phrase → Prop) : Prop := ∀ a, ¬ written a (.scalar .null)

theorem neverNull_text : NeverNull WrittenText := fun _ ⟨_, h, _⟩ => nomatch h

theorem neverNull_boolean : NeverNull WrittenBoolean := fun _ h => nomatch h

theorem neverNull_list {α : Type} {written : α → Phrase → Prop} : NeverNull (WrittenList written) :=
  fun _ ⟨_, h, _⟩ => nomatch h

theorem Phrase.eq_null {v : Phrase} (h : v.IsNull) : v = .scalar .null := by
  cases v with
  | list | object => cases h
  | scalar s =>
      cases s with
      | null => rfl
      | boolean | number | text => cases h

theorem WrittenOptional.accepts {α : Type} {reader : NodeReader α}
    {written : α → Phrase → Prop} (hnull : NeverNull written)
    {room : Nat} {a : Option α}
    (haccepts : ∀ x, a = some x → ∀ v, written x v → reader.Accepts room v x)
    {v : Phrase} (h : WrittenOptional written a (some v)) : reader.optional.Accepts room v a := by
  cases a with
  | none =>
      obtain rfl : v = .scalar .null := h
      intro node hnode
      rw [NodeReader.optional, if_pos (hnode.isNull_iff.mpr trivial)]
  | some x =>
      have hv : ¬ v.IsNull := fun hv => hnull x (Phrase.eq_null hv ▸ h)
      exact accepts_some hv (haccepts x rfl v h)

theorem readsInto_optional {α σ : Type} {reader : NodeReader α}
    {written : α → Phrase → Prop} (hnull : NeverNull written) {room : Nat} {a : Option α}
    (haccepts : ∀ x, a = some x → ∀ v, written x v → reader.Accepts room v x)
    {part : List String → σ} {name : String} {put : Option α → σ → σ}
    (hput : ∀ seen, put a (part seen) = part (name :: seen)) :
    ReadsInto room part (.of name reader.optional put) (name, WrittenOptional written a) :=
  readsInto_of (fun _ hv => WrittenOptional.accepts hnull haccepts hv) hput

theorem readsInto_orDefault {α σ : Type} {reader : NodeReader α} {written : α → Phrase → Prop}
    {room : Nat} {default a : α} (haccepts : ∀ v, written a v → reader.Accepts room v a)
    {part : List String → σ} {name : String} {put : α → σ → σ}
    (hput : ∀ seen, put a (part seen) = part (name :: seen)) :
    ReadsInto room part (.of name reader put) (name, WrittenOrDefault written default a) :=
  readsInto_of haccepts hput

@[simp]
theorem writtenOrDefault_none {α : Type} {written : α → Phrase → Prop} {default a : α} :
    WrittenOrDefault written default a none ↔ default = a :=
  eq_comm

@[simp]
theorem writtenOptional_none {α : Type} {written : α → Phrase → Prop} {a : Option α} :
    WrittenOptional written a none ↔ none = a := by
  cases a <;> simp [WrittenOptional]

end Typings.Json

namespace Typings.Docs

open Json

/-! ## Entries -/

/-- The literal value of a return type is a text or an integer. -/
def WrittenLiteral : Value → Phrase → Prop
  | .text s, v => WrittenText s v
  | .number (.integer i), v => WrittenInteger i v
  | _, _ => False

def ReturnType.form (rt : ReturnType) : RecordForm :=
  [ ("type", WrittenOptional WrittenText rt.type),
    ("name", WrittenOptional WrittenLiteral rt.name),
    ("array_value", WrittenOptional WrittenText rt.arrayValue) ]

def WrittenReturnType (rt : ReturnType) (v : Phrase) : Prop :=
  ∃ ms, v = .object ms ∧ WrittenRecord rt.form ms

def Property.form (p : Property) : RecordForm :=
  [ ("name", WrittenOrDefault WrittenText "" p.name),
    ("summary", WrittenOptional WrittenText p.summary),
    ("return_type", WrittenOptional (WrittenList WrittenReturnType) p.returnType),
    ("deprecated", WrittenOptional WrittenBoolean p.deprecated) ]

def WrittenProperty (p : Property) (v : Phrase) : Prop :=
  ∃ ms, v = .object ms ∧ WrittenRecord p.form ms

def Access.form (a : Access) : RecordForm :=
  [ ("global", WrittenOptional WrittenBoolean a.global),
    ("template", WrittenOptional (WrittenList WrittenText) a.template) ]

def WrittenAccess (a : Access) (v : Phrase) : Prop :=
  ∃ ms, v = .object ms ∧ WrittenRecord a.form ms

def Object.form (o : Object) : RecordForm :=
  [ ("name", WrittenOrDefault WrittenText "" o.name),
    ("summary", WrittenOptional WrittenText o.summary),
    ("access", WrittenOptional WrittenAccess o.access),
    ("properties", WrittenOptional (WrittenList WrittenProperty) o.properties),
    ("return_type", WrittenOptional (WrittenList WrittenReturnType) o.returnType),
    ("deprecated", WrittenOptional WrittenBoolean o.deprecated),
    ("deprecation_reason", WrittenOptional WrittenText o.deprecationReason) ]

def WrittenObject (o : Object) (v : Phrase) : Prop :=
  ∃ ms, v = .object ms ∧ WrittenRecord o.form ms

/-- The text is a list of the objects with any whitespace around its pieces. -/
def WrittenDocumentation (objects : List Object) (text : String) : Prop :=
  ∃ v front space, text.toList = front ++ space ∧ WrittenList WrittenObject objects v ∧
    v.WrittenAs front ∧ IsSpace space

/-- The value is a text or an integer that fits 64 bits. -/
def IsLiteral : Value → Prop
  | .text _ => True
  | .number (.integer i) => FitsNumber i
  | _ => False

def ReturnType.Writable (rt : ReturnType) : Prop := ∀ value, rt.name = some value → IsLiteral value

def Property.Writable (p : Property) : Prop := ∀ rt ∈ p.returnTypes, rt.Writable

/-- Every literal value in the documentation of the object is a text or an integer. -/
def Object.Writable (o : Object) : Prop :=
  (∀ p ∈ o.propertyList, p.Writable) ∧ ∀ rt ∈ o.returnTypes, rt.Writable

/-! ## Reading -/

/-- The fields of these names, the others being left out. -/
def ReturnType.part (rt : ReturnType) (seen : List String) : ReturnType where
  type := if "type" ∈ seen then rt.type else none
  name := if "name" ∈ seen then rt.name else none
  arrayValue := if "array_value" ∈ seen then rt.arrayValue else none

theorem neverNull_literal : NeverNull WrittenLiteral := by
  intro value h
  cases value with
  | text => exact neverNull_text _ h
  | number x =>
      cases x with
      | integer =>
          obtain ⟨_, h, _⟩ := h
          cases h
      | double => cases h
  | _ => cases h

theorem WrittenLiteral.accepts {value : Value} (hliteral : IsLiteral value) {room : Nat}
    {v : Phrase} (h : WrittenLiteral value v) : NodeReader.value.Accepts room v value := by
  cases value with
  | text s =>
      obtain ⟨l, rfl, hl⟩ := h
      rintro _ ⟨⟨_, ht, hs⟩⟩
      simp [NodeReader.value, Node.readValue, Token.readScalar, ht, (hs s).mpr hl]
  | number x =>
      cases x with
      | double => cases h
      | integer i =>
          obtain ⟨n, rfl, hn⟩ := h
          rintro _ ⟨⟨x, ht, hx⟩⟩
          rw [hn.value hliteral] at hx
          cases x with
          | error => cases hx
          | ok number =>
              cases hx
              simp [NodeReader.value, Node.readValue, Token.readScalar, ht]
  | _ => cases h

theorem WrittenReturnType.accepts {rt : ReturnType} (hwritable : rt.Writable) {room : Nat}
    {v : Phrase} (h : WrittenReturnType rt v) : returnTypeReader.Accepts (room + 1) v rt := by
  obtain ⟨ms, rfl, hms⟩ := h
  refine accepts_written rt.part rfl (.cons ?type (.cons ?name (.cons ?arrayValue .nil)))
    ?complete hms
  case type | arrayValue =>
    exact readsInto_optional neverNull_text (fun _ _ _ => WrittenText.accepts)
      (by simp [ReturnType.part])
  case name =>
    exact readsInto_optional neverNull_literal
      (fun value hvalue _ => WrittenLiteral.accepts (hwritable value hvalue))
      (by simp [ReturnType.part])
  case complete =>
    intro seen hseen
    cases rt
    simpa [ReturnType.part] using hseen

theorem accepts_returnTypes {rts : List ReturnType} (hwritable : ∀ rt ∈ rts, rt.Writable)
    {room : Nat} {v : Phrase} (h : WrittenList WrittenReturnType rts v) :
    (NodeReader.list returnTypeReader).Accepts (room + 2) v rts :=
  WrittenList.accepts (fun rt hrt _ => WrittenReturnType.accepts (hwritable rt hrt)) h

def Property.part (p : Property) (seen : List String) : Property where
  name := if "name" ∈ seen then p.name else ""
  summary := if "summary" ∈ seen then p.summary else none
  returnType := if "return_type" ∈ seen then p.returnType else none
  deprecated := if "deprecated" ∈ seen then p.deprecated else none

theorem WrittenProperty.accepts {p : Property} (hwritable : p.Writable) {room : Nat} {v : Phrase}
    (h : WrittenProperty p v) : propertyReader.Accepts (room + 3) v p := by
  obtain ⟨ms, rfl, hms⟩ := h
  refine accepts_written p.part rfl
    (.cons ?name (.cons ?summary (.cons ?returnType (.cons ?deprecated .nil)))) ?complete hms
  case name =>
    exact readsInto_orDefault (fun _ => WrittenText.accepts) (by simp [Property.part])
  case summary =>
    exact readsInto_optional neverNull_text (fun _ _ _ => WrittenText.accepts)
      (by simp [Property.part])
  case returnType =>
    refine readsInto_optional neverNull_list ?_ (by simp [Property.part])
    intro rts hrts v hv
    rw [Property.Writable, Property.returnTypes, hrts] at hwritable
    exact accepts_returnTypes hwritable hv
  case deprecated =>
    exact readsInto_optional neverNull_boolean (fun _ _ _ => WrittenBoolean.accepts)
      (by simp [Property.part])
  case complete =>
    intro seen hseen
    cases p
    simpa [Property.part] using hseen

def Access.part (a : Access) (seen : List String) : Access where
  global := if "global" ∈ seen then a.global else none
  template := if "template" ∈ seen then a.template else none

theorem WrittenAccess.accepts {a : Access} {room : Nat} {v : Phrase} (h : WrittenAccess a v) :
    accessReader.Accepts (room + 2) v a := by
  obtain ⟨ms, rfl, hms⟩ := h
  refine accepts_written a.part rfl (.cons ?global (.cons ?template .nil)) ?complete hms
  case global =>
    exact readsInto_optional neverNull_boolean (fun _ _ _ => WrittenBoolean.accepts)
      (by simp [Access.part])
  case template =>
    exact readsInto_optional neverNull_list
      (fun _ _ _ => WrittenList.accepts fun _ _ _ => WrittenText.accepts) (by simp [Access.part])
  case complete =>
    intro seen hseen
    cases a
    simpa [Access.part] using hseen

theorem neverNull_access : NeverNull WrittenAccess := fun _ ⟨_, h, _⟩ => nomatch h

def Object.part (o : Object) (seen : List String) : Object where
  name := if "name" ∈ seen then o.name else ""
  summary := if "summary" ∈ seen then o.summary else none
  access := if "access" ∈ seen then o.access else none
  properties := if "properties" ∈ seen then o.properties else none
  returnType := if "return_type" ∈ seen then o.returnType else none
  deprecated := if "deprecated" ∈ seen then o.deprecated else none
  deprecationReason := if "deprecation_reason" ∈ seen then o.deprecationReason else none

theorem WrittenObject.accepts {o : Object} (hwritable : o.Writable) {room : Nat} {v : Phrase}
    (h : WrittenObject o v) : objectReader.Accepts (room + 5) v o := by
  obtain ⟨ms, rfl, hms⟩ := h
  obtain ⟨hproperties, hreturnTypes⟩ := hwritable
  refine accepts_written o.part rfl (.cons ?name (.cons ?summary (.cons ?access (.cons ?properties
    (.cons ?returnType (.cons ?deprecated (.cons ?reason .nil))))))) ?complete hms
  case name => exact readsInto_orDefault (fun _ => WrittenText.accepts) (by simp [Object.part])
  case summary | reason =>
    exact readsInto_optional neverNull_text (fun _ _ _ => WrittenText.accepts)
      (by simp [Object.part])
  case access =>
    exact readsInto_optional neverNull_access (fun _ _ _ => WrittenAccess.accepts)
      (by simp [Object.part])
  case properties =>
    refine readsInto_optional neverNull_list ?_ (by simp [Object.part])
    intro ps hps v hv
    rw [Object.propertyList, hps] at hproperties
    exact WrittenList.accepts (fun p hp _ => WrittenProperty.accepts (hproperties p hp)) hv
  case returnType =>
    refine readsInto_optional neverNull_list ?_ (by simp [Object.part])
    intro rts hrts v hv
    rw [Object.returnTypes, hrts] at hreturnTypes
    exact accepts_returnTypes hreturnTypes hv
  case deprecated =>
    exact readsInto_optional neverNull_boolean (fun _ _ _ => WrittenBoolean.accepts)
      (by simp [Object.part])
  case complete =>
    intro seen hseen
    cases o
    simpa [Object.part] using hseen

/-! ## Whole documents -/

theorem exists_writtenReturnType {rt : ReturnType} (hwritable : rt.Writable) :
    ∃ v, WrittenReturnType rt v := by
  have hliteral : ∀ value, rt.name = some value → ∃ v, WrittenLiteral value v := by
    intro value hvalue
    have h := hwritable value hvalue
    cases value with
    | text s => exact exists_writtenText s
    | number x =>
        cases x with
        | integer i => exact exists_writtenInteger i
        | double => cases h
    | _ => cases h
  have hform : ∀ named ∈ rt.form, ∃ v, named.2 v := by
    simp only [ReturnType.form, List.forall_mem_cons]
    exact ⟨exists_writtenOptional fun s _ => exists_writtenText s, exists_writtenOptional hliteral,
      exists_writtenOptional fun s _ => exists_writtenText s, by simp⟩
  obtain ⟨ms, hms, _⟩ := exists_writtenRecord rt.form (by simp [ReturnType.form]) hform
  exact ⟨_, ms, rfl, hms⟩

theorem exists_writtenProperty {p : Property} (hwritable : p.Writable) :
    ∃ v, WrittenProperty p v := by
  have hreturnTypes : ∀ rts, p.returnType = some rts →
      ∃ v, WrittenList WrittenReturnType rts v := by
    intro rts hrts
    rw [Property.Writable, Property.returnTypes, hrts] at hwritable
    exact exists_writtenList fun rt hrt => exists_writtenReturnType (hwritable rt hrt)
  have hform : ∀ named ∈ p.form, ∃ v, named.2 v := by
    simp only [Property.form, List.forall_mem_cons]
    exact ⟨exists_writtenOrDefault (exists_writtenText _),
      exists_writtenOptional fun s _ => exists_writtenText s,
      exists_writtenOptional hreturnTypes, exists_writtenOptional fun b _ => ⟨_, rfl⟩, by simp⟩
  obtain ⟨ms, hms, _⟩ := exists_writtenRecord p.form (by simp [Property.form]) hform
  exact ⟨_, ms, rfl, hms⟩

theorem exists_writtenAccess (a : Access) : ∃ v, WrittenAccess a v := by
  have hform : ∀ named ∈ a.form, ∃ v, named.2 v := by
    simp only [Access.form, List.forall_mem_cons]
    exact ⟨exists_writtenOptional fun b _ => ⟨_, rfl⟩, exists_writtenOptional fun _ _ =>
      exists_writtenList fun s _ => exists_writtenText s, by simp⟩
  obtain ⟨ms, hms, _⟩ := exists_writtenRecord a.form (by simp [Access.form]) hform
  exact ⟨_, ms, rfl, hms⟩

theorem exists_writtenObject {o : Object} (hwritable : o.Writable) :
    ∃ v, WrittenObject o v := by
  obtain ⟨hwritableProperties, hwritableReturnTypes⟩ := hwritable
  have hproperties : ∀ ps, o.properties = some ps → ∃ v, WrittenList WrittenProperty ps v := by
    intro ps hps
    rw [Object.propertyList, hps] at hwritableProperties
    exact exists_writtenList fun p hp => exists_writtenProperty (hwritableProperties p hp)
  have hreturnTypes : ∀ rts, o.returnType = some rts →
      ∃ v, WrittenList WrittenReturnType rts v := by
    intro rts hrts
    rw [Object.returnTypes, hrts] at hwritableReturnTypes
    exact exists_writtenList fun rt hrt => exists_writtenReturnType (hwritableReturnTypes rt hrt)
  have hform : ∀ named ∈ o.form, ∃ v, named.2 v := by
    simp only [Object.form, List.forall_mem_cons]
    exact ⟨exists_writtenOrDefault (exists_writtenText _),
      exists_writtenOptional fun s _ => exists_writtenText s,
      exists_writtenOptional fun a _ => exists_writtenAccess a,
      exists_writtenOptional hproperties, exists_writtenOptional hreturnTypes,
      exists_writtenOptional fun b _ => ⟨_, rfl⟩,
      exists_writtenOptional fun s _ => exists_writtenText s, by simp⟩
  obtain ⟨ms, hms, _⟩ := exists_writtenRecord o.form (by simp [Object.form]) hform
  exact ⟨_, ms, rfl, hms⟩

/-- Objects with literal values that are texts or integers of at most 64 bits have a text, and every
text that is written for them is loaded as these objects. -/
theorem load_written {objects : List Object} (hwritable : ∀ o ∈ objects, o.Writable) :
    (∃ text, WrittenDocumentation objects text) ∧
      ∀ text, WrittenDocumentation objects text → load text = .ok objects := by
  constructor
  · obtain ⟨v, hv⟩ := exists_writtenList fun o ho => exists_writtenObject (hwritable o ho)
    refine ⟨String.ofList (v.pieces.flatMap Piece.chars), v, _, [], ?_, hv, .flat v.pieces, ?_⟩
    · rw [String.toList_ofList, List.append_nil]
    · simp [IsSpace]
  · rintro text ⟨_, front, space, htext, ⟨vs, rfl, hobjects⟩, hfront, _⟩
    rw [← @String.ofList_toList text, htext]
    refine (load_front hfront space).mpr ?_
    exact WrittenList.accepts (fun o ho _ => WrittenObject.accepts (hwritable o ho))
      ⟨vs, rfl, hobjects⟩

/-- A name beyond the first 65536 characters and a negative literal. -/
def clef : Object where
  name := "𝄞"
  returnType := some [{ type := some "number", name := some (.number (.integer (-7))) }]

theorem load_written_clef : ∃ text, WrittenDocumentation [clef] text ∧ load text = .ok [clef] := by
  have hwritable : ∀ o ∈ [clef], o.Writable := by
    simp [clef, Object.Writable, Object.propertyList, Object.returnTypes, ReturnType.Writable,
      IsLiteral, FitsNumber]
  obtain ⟨⟨text, htext⟩, hload⟩ := load_written hwritable
  exact ⟨text, htext, hload text htext⟩

end Typings.Docs
