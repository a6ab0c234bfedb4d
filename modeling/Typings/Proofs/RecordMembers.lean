import Typings.Proofs.DocumentationText
import Typings.Proofs.Json.Writing

/-! # Members of records

A record may name its fields in any order, and members of other names say nothing, wherever in a
document the record is.
-/

namespace Typings.Json

/-! ## One record -/

section Gathering

variable {σ : Type} {layout : List (RecordField σ)} {room : Nat}

theorem Unrepeated.perm {names : List String} {ms ms' : Members}
    (h : Unrepeated names ms) (hperm : ms.Perm ms') : Unrepeated names ms' :=
  (hperm.pairwise_iff fun hxy name hname hy hx => hxy name hname hx hy).mp h

theorem Gathered.swap (hplaceless : ∀ field ∈ layout, field.Placeless)
    (hcommutes : layout.Pairwise RecordField.Commutes) {m m' : TextLiteral × Phrase}
    {ms : Members} {record record' : σ}
    (hunrepeated : Unrepeated (layout.map (·.name)) (m :: m' :: ms))
    (h : Gathered layout room record (m :: m' :: ms) record') :
    Gathered layout room record (m' :: m :: ms) record' := by
  cases h with
  | unknown v hkey hfind h =>
      cases h with
      | unknown v' hkey' hfind' h => exact .unknown v' hkey' hfind' (.unknown v hkey hfind h)
      | known hkey' hfind' hfield' h => exact .known hkey' hfind' hfield' (.unknown v hkey hfind h)
  | @known _ next _ key name v _ field hkey hfind hfield h =>
      cases h with
      | unknown v' hkey' hfind' h => exact .unknown v' hkey' hfind' (.known hkey hfind hfield h)
      | @known _ mid _ key' name' v' _ field' hkey' hfind' hfield' h =>
          -- two members of one field would be a repetition; other fields commute
          have hne : field ≠ field' := by
            rintro rfl
            have hname : field.name = name := by simpa using List.find?_some hfind
            have hname' : field.name = name' := by simpa using List.find?_some hfind'
            obtain rfl := hname.symm.trans hname'
            exact List.rel_of_pairwise_cons hunrepeated List.mem_cons_self _
              (mem_names_of_find hfind) hkey hkey'
          have hmem := List.mem_of_find?_eq_some hfind
          have hmem' := List.mem_of_find?_eq_some hfind'
          have hswap : field.Commutes field' :=
            hcommutes.forall hmem hmem' hne
          obtain ⟨node, hnode⟩ := v.exists_node
          obtain ⟨node', hnode'⟩ := v'.exists_node
          have hread := bind_eq_ok.mpr ⟨next, hfield node hnode, hfield' node' hnode'⟩
          obtain ⟨next', hnext', hmid⟩ := bind_eq_ok.mp (hswap.mp hread)
          exact .known hkey' hfind' (hplaceless _ hmem' hnode' hnext')
            (.known hkey hfind (hplaceless _ hmem hnode hmid) h)

/-- The order of the members does not matter. -/
theorem Gathered.perm (hplaceless : ∀ field ∈ layout, field.Placeless)
    (hcommutes : layout.Pairwise RecordField.Commutes) {ms ms' : Members}
    (hperm : ms.Perm ms') {record record' : σ}
    (hunrepeated : Unrepeated (layout.map (·.name)) ms)
    (h : Gathered layout room record ms record') : Gathered layout room record ms' record' := by
  induction hperm generalizing record with
  | nil => exact h
  | cons m _ ih =>
      cases h with
      | unknown v hkey hfind h => exact .unknown v hkey hfind (ih hunrepeated.tail h)
      | known hkey hfind hfield h => exact .known hkey hfind hfield (ih hunrepeated.tail h)
  | swap m m' ms => exact h.swap hplaceless hcommutes hunrepeated
  | trans hfirst _ ih ih' => exact ih' (hunrepeated.perm hfirst) (ih hunrepeated h)

theorem Gathered.insert {before after : Members} {key : TextLiteral} {name : String}
    (v : Phrase) (hkey : key.Denotes name) (hname : name ∉ layout.map (·.name))
    {record record' : σ} (h : Gathered layout room record (before ++ after) record') :
    Gathered layout room record (before ++ (key, v) :: after) record' := by
  obtain ⟨mid, hbefore, hafter⟩ := gathered_append_iff.mp h
  have hfind : layout.find? (·.name == name) = none := by
    rw [List.find?_eq_none]
    intro field hfield hsame
    exact hname (List.mem_map.mpr ⟨field, hfield, by simpa using hsame⟩)
  exact gathered_append_iff.mpr ⟨mid, hbefore, .unknown v hkey hfind hafter⟩

theorem Unrepeated.insert {names : List String} {before after : Members} {key : TextLiteral}
    {name : String} (v : Phrase) (hkey : key.Denotes name) (hname : name ∉ names)
    (h : Unrepeated names (before ++ after)) : Unrepeated names (before ++ (key, v) :: after) := by
  have habsent : ∀ other ∈ names, ¬ key.Denotes other := by
    intro other hother hdenotes
    exact hname (hkey.unique hdenotes ▸ hother)
  refine Unrepeated.perm ?_ (List.perm_middle).symm
  refine .cons ?_ h
  exact fun _ _ other hother hdenotes => absurd hdenotes (habsent other hother)

end Gathering

/-- The same members in another order, or with one more that has none of the names. -/
inductive Edited (names : List String) :
    Members → Members → Prop
  | permuted {ms ms' : Members} : ms.Perm ms' → Edited names ms ms'
  | inserted (before after : Members) {key : TextLiteral} {name : String}
      (v : Phrase) : key.Denotes name → name ∉ names →
      Edited names (before ++ after) (before ++ (key, v) :: after)

theorem Follows.accepts_edited {α : Type} {reader : NodeReader α}
    {fields : List (String × Schema)} (h : Follows reader (.record fields))
    {ms ms' : Members} (hedited : Edited (fields.map (·.1)) ms ms') {room : Nat}
    {a : α} (haccepts : reader.Accepts room (.object ms) a) :
    reader.Accepts room (.object ms') a := by
  -- a reader of the schema is that of a record, perhaps below readers of optional values
  generalize hs : Schema.record fields = s at h
  induction h using Follows.induct with
  | text | boolean | value | list => cases hs
  | optional h ih =>
      rw [accepts_optional_iff h.placeless id] at haccepts ⊢
      obtain ⟨b, hb, hsome⟩ := haccepts
      exact ⟨b, ih hb hs, hsome⟩
  | @record label σ layout empty _ hlayout hnodup hcommutes ih =>
      cases hs
      have hplaceless := hlayout.placeless
      rw [accepts_object_iff hplaceless] at haccepts ⊢
      obtain ⟨inner, hroom, hgathered, hunrepeated⟩ := haccepts
      refine ⟨inner, hroom, ?_⟩
      cases hedited with
      | permuted hperm =>
          exact ⟨hgathered.perm hplaceless hcommutes hperm hunrepeated, hunrepeated.perm hperm⟩
      | inserted before after v hkey hname =>
          rw [← ih.names] at hname
          exact ⟨hgathered.insert v hkey hname, hunrepeated.insert v hkey hname⟩

/-! ## A record in a document -/

/-- A value in a document can be replaced by one that readers of its schema take for the same. -/
theorem Follows.accepts_plug {α : Type} {reader : NodeReader α} {s t : Schema}
    (h : Follows reader s) {v w : Phrase}
    (hsame : ∀ {β : Type} {reader' : NodeReader β}, Follows reader' t →
      ∀ {room : Nat} {b : β}, reader'.Accepts room v b → reader'.Accepts room w b)
    {frames : List Frame} {steps : List Step} (hleads : Leads s frames steps t) {room : Nat} {a : α}
    (haccepts : reader.Accepts room (plug frames v) a) :
    reader.Accepts room (plug frames w) a := by
  induction h using Follows.induct generalizing frames steps room with
  | text =>
      cases hleads
      exact hsame .text haccepts
  | boolean =>
      cases hleads
      exact hsame .boolean haccepts
  | value =>
      cases hleads
      exact hsame .value haccepts
  | optional h ih =>
      cases frames with
      | nil =>
          cases hleads
          exact hsame (.optional h) haccepts
      | cons frame frames =>
          rw [accepts_optional_iff h.placeless (plug_not_null frame frames _)] at haccepts ⊢
          obtain ⟨b, hb, hsome⟩ := haccepts
          exact ⟨b, ih hleads hb, hsome⟩
  | list h ih =>
      cases hleads with
      | here => exact hsame (.list h) haccepts
      | item before after hleads =>
          rw [plug_item, accepts_item_iff h.placeless] at haccepts ⊢
          obtain ⟨inner, front, b, back, hroom, has, hfront, hb, hback⟩ := haccepts
          exact ⟨inner, front, b, back, hroom, has, hfront, ih hleads hb, hback⟩
  | @record _ _ layout _ _ hlayout hnodup hcommutes ih =>
      have hplaceless := hlayout.placeless
      cases hleads with
      | here => exact hsame (.record _ _ hlayout hnodup hcommutes) haccepts
      | @member _ name s _ _ _ key before after hmem hkey hleads =>
          rw [plug_member, accepts_object_iff hplaceless] at haccepts ⊢
          obtain ⟨inner, hroom, hgathered, hunrepeated⟩ := haccepts
          obtain ⟨_, reader, put, hfind, hreader, ihreader⟩ := ih.find hnodup hmem
          rw [gathered_known_iff hkey hfind] at hgathered
          obtain ⟨mid, mid', hbefore, hfield, hafter⟩ := hgathered
          have hfield' :=
            RecordField.accepts_of_congr hreader.placeless (fun _ => ihreader hleads) hfield
          refine ⟨inner, hroom, ?_, (unrepeated_congr (by simp)).mp hunrepeated⟩
          exact (gathered_known_iff hkey hfind).mpr ⟨mid, mid', hbefore, hfield', hafter⟩
      | @position _ name s _ _ _ before after hget hleads =>
          rw [plug_item, accepts_positions_iff hplaceless] at haccepts ⊢
          obtain ⟨inner, hroom, rest, hfilled⟩ := haccepts
          obtain ⟨_, reader, put, hget, hreader, ihreader⟩ := ih.getElem? hget
          rw [filled_item_iff hget] at hfilled
          obtain ⟨mid, mid', hbefore, hfield, hafter⟩ := hfilled
          have hfield' :=
            RecordField.accepts_of_congr hreader.placeless (fun _ => ihreader hleads) hfield
          refine ⟨inner, hroom, rest, ?_⟩
          exact (filled_item_iff hget).mpr ⟨mid, mid', hbefore, hfield', hafter⟩

end Typings.Json

namespace Typings.Docs

open Json

/-- The text of an accepted document begins with a list, and wherever a record is written in it as
an object, neither another order of its members nor a member of another name changes what is read,
however the new members and the rest of the list are written and whatever follows the list. -/
theorem load_edited {text : String} {objects : List Object} (hload : load text = .ok objects) :
    (∃ items front tail, text.toList = front ++ tail ∧ (Phrase.list items).WrittenAs front) ∧
      ∀ (frames : List Frame) (ms ms' : Members) (steps : List Step)
        (fields : List (String × Schema)) (front tail front' : List Char),
        text.toList = front ++ tail → (plug frames (.object ms)).WrittenAs front →
        Leads documentation frames steps (.record fields) → Edited (fields.map (·.1)) ms ms' →
        (plug frames (.object ms')).WrittenAs front' →
        load (String.ofList (front' ++ tail)) = .ok objects := by
  refine ⟨front_of_load hload, ?_⟩
  intro frames ms ms' steps fields front tail front' htext hfront hleads hedited hfront'
  -- the outermost frame is the list, behind which anything may follow
  obtain ⟨before, after, frames, rfl⟩ : ∃ before after inner,
      frames = Frame.item before after :: inner := by
    cases hleads with
    | item before after => exact ⟨before, after, _, rfl⟩
  rw [← @String.ofList_toList text, htext] at hload
  have haccepts := (load_front hfront tail).mp hload
  refine (load_front hfront' tail).mpr ?_
  exact documentation_follows.accepts_plug
    (fun hreader _ _ h => hreader.accepts_edited hedited h) hleads haccepts

/-- The members of an entry and those of a property in it in another order, and one more member of
the property. -/
theorem load_edited_property :
    ∃ objects,
      load ("[\x7b\"name\":\"a\"\x7d,\x7b\"name\":\"b\",\"properties\":" ++
        "[\x7b\"name\":\"x\",\"deprecated\":true\x7d]\x7d]") = .ok objects ∧
      load ("[\x7b\"name\":\"a\"\x7d,\x7b\"properties\":" ++
        "[\x7b\"name\":\"x\",\"deprecated\":true\x7d],\"name\":\"b\"\x7d]") = .ok objects ∧
      load ("[\x7b\"name\":\"a\"\x7d,\x7b\"name\":\"b\",\"properties\":" ++
        "[\x7b\"deprecated\":true,\"name\":\"x\"\x7d]\x7d]") = .ok objects ∧
      load ("[\x7b\"name\":\"a\"\x7d,\x7b\"name\":\"b\",\"properties\":" ++
        "[\x7b\"name\":\"x\",\"note\":[null],\"deprecated\":true\x7d]\x7d]") = .ok objects := by
  let named (s : String) : TextLiteral × Phrase := (.ofString "name", .scalar (.text (.ofString s)))
  let deprecated : TextLiteral × Phrase := (.ofString "deprecated", .scalar (.boolean true))
  let properties : TextLiteral × Phrase :=
    (.ofString "properties", .list [.object [named "x", deprecated]])
  let note : Phrase := .list [.scalar .null]
  let entry : Frame := .item [.object [named "a"]] []
  let property : List Frame :=
    [entry, .member [named "b"] (.ofString "properties") [], .item [] []]
  have hentry : Leads documentation [entry] [.index 1] objectSchema := .item _ _ (.here _)
  have hproperty : Leads documentation property [.index 1, .key "properties", .index 0]
      propertySchema :=
    .item _ _ (.member _ _ (by simp [objectFields]) (TextLiteral.ofString_denotes _)
      (.item [] [] (.here _)))
  obtain ⟨objects, hload⟩ := exists_loaded
    (show (load ("[\x7b\"name\":\"a\"\x7d,\x7b\"name\":\"b\",\"properties\":" ++
      "[\x7b\"name\":\"x\",\"deprecated\":true\x7d]\x7d]")).isOk = true by decide +kernel)
  obtain ⟨_, hedit⟩ := load_edited hload
  have hentryEdit := hedit [entry] [named "b", properties] [properties, named "b"] _ _ _ [] _
    (by decide +kernel) (Spaced.flat _) hentry (.permuted (.swap _ _ _)) (Spaced.flat _)
  have hpermuted := hedit property [named "x", deprecated] [deprecated, named "x"] _ _ _ [] _
    (by decide +kernel) (Spaced.flat _) hproperty (.permuted (.swap _ _ _)) (Spaced.flat _)
  have hinserted := hedit property [named "x", deprecated] _ _ _ _ [] _
    (by decide +kernel) (Spaced.flat _) hproperty (.inserted [named "x"] [deprecated] note
      (TextLiteral.ofString_denotes "note") (by decide)) (Spaced.flat _)
  refine ⟨objects, hload, ?_, ?_, ?_⟩
  · rw [← hentryEdit]
    exact congrArg load (by decide +kernel)
  · rw [← hpermuted]
    exact congrArg load (by decide +kernel)
  · rw [← hinserted]
    exact congrArg load (by decide +kernel)

end Typings.Docs
