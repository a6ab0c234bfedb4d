import Typings.Docs.Reading
import Typings.Proofs.Json.Schemas

/-! # The text of documentation

Documentation is read from the list at the head of a text.
-/

namespace Typings.Docs

open Json

/-! ## What belongs where -/

def returnTypeSchema : Schema :=
  .record [("type", .text), ("name", .any), ("array_value", .text)]

def propertySchema : Schema :=
  .record [("name", .text), ("summary", .text), ("return_type", .list returnTypeSchema),
    ("deprecated", .boolean)]

def accessSchema : Schema := .record [("global", .boolean), ("template", .list .text)]

def objectFields : List (String × Schema) :=
  [("name", .text), ("summary", .text), ("access", accessSchema),
    ("properties", .list propertySchema), ("return_type", .list returnTypeSchema),
    ("deprecated", .boolean), ("deprecation_reason", .text)]

def objectSchema : Schema := .record objectFields

/-- The schema of a documentation text. -/
def documentation : Schema := .list objectSchema

theorem returnTypeReader_follows : Follows returnTypeReader returnTypeSchema := by
  refine .record _ _ (.cons (.optional .text) (.cons (.optional .value)
    (.cons (.optional .text) .nil))) (by decide) ?_
  simp [List.pairwise_cons, RecordField.of_commutes]

theorem propertyReader_follows : Follows propertyReader propertySchema := by
  refine .record _ _ (.cons .text (.cons (.optional .text)
    (.cons (.optional (.list returnTypeReader_follows)) (.cons (.optional .boolean) .nil))))
    (by decide) ?_
  simp [List.pairwise_cons, RecordField.of_commutes]

theorem accessReader_follows : Follows accessReader accessSchema := by
  refine .record _ _ (.cons (.optional .boolean) (.cons (.optional (.list .text)) .nil))
    (by decide) ?_
  simp [List.pairwise_cons, RecordField.of_commutes]

theorem objectReader_follows : Follows objectReader objectSchema := by
  refine .record _ _ (.cons .text (.cons (.optional .text)
    (.cons (.optional accessReader_follows)
    (.cons (.optional (.list propertyReader_follows))
    (.cons (.optional (.list returnTypeReader_follows)) (.cons (.optional .boolean)
    (.cons (.optional .text) .nil))))))) (by decide) ?_
  simp [List.pairwise_cons, RecordField.of_commutes]

theorem documentation_follows : Follows (NodeReader.list objectReader) documentation :=
  .list objectReader_follows

/-! ## The list at the head of a text -/

theorem load_eq_ok {text : String} {objects : List Object} :
    load text = .ok objects ↔
      NodeReader.list objectReader maxDepth (readDocument text.toList).1 = .ok objects := by
  rw [load]
  cases NodeReader.list objectReader maxDepth (readDocument text.toList).1 <;> simp

theorem exists_loaded {text : String} (hok : (load text).isOk = true) :
    ∃ objects, load text = .ok objects := by
  cases hload : load text with
  | error e => simp [hload, Except.isOk, Except.toBool] at hok
  | ok objects => exact ⟨objects, rfl⟩

theorem piecesEnd_list (items : List Phrase) (rest : List Char) :
    PiecesEnd (Phrase.list items).pieces rest := by
  have hend : PiecesEnd ((.mark .openList :: itemPieces true items) ++ [.mark .closeList]) rest :=
    piecesEnd_append_singleton trivial
  exact hend

theorem load_phrase {v : Phrase} {front tail : List Char} (hfront : v.WrittenAs front)
    (hend : PiecesEnd v.pieces tail) {objects : List Object} :
    load (String.ofList (front ++ tail)) = .ok objects ↔
      (NodeReader.list objectReader).Accepts maxDepth v objects := by
  obtain ⟨node, p, hread, hnode⟩ := readDocument_front hfront hend
  rw [load_eq_ok, String.toList_ofList, hread]
  exact ⟨documentation_follows.placeless hnode, fun h => h node hnode⟩

/-- What stands behind the list does not matter. -/
theorem load_front {items : List Phrase} {front : List Char}
    (hfront : (Phrase.list items).WrittenAs front) (tail : List Char) {objects : List Object} :
    load (String.ofList (front ++ tail)) = .ok objects ↔
      (NodeReader.list objectReader).Accepts maxDepth (.list items) objects :=
  load_phrase hfront (piecesEnd_list items tail)

theorem front_of_load {text : String} {objects : List Object} (hload : load text = .ok objects) :
    ∃ items front tail, text.toList = front ++ tail ∧ (Phrase.list items).WrittenAs front := by
  rw [load_eq_ok] at hload
  obtain ⟨v, front, next, hfront, htext, _, hnode⟩ :=
    readDocument_sound (documentation_follows.careful hload)
  cases hnode' : (readDocument text.toList).1 with
  | leaf | object =>
      rw [hnode'] at hload
      cases hload
  | list bracket items =>
      rw [hnode'] at hnode
      cases hnode with
      | list => exact ⟨_, front, next.rest, htext, hfront⟩

theorem finish_of_isListText {text : List Char} (htext : IsListText text) :
    (readDocument text).2.head?.map Token.isFinish = some true := by
  obtain ⟨items, front, space, rfl, hfront, hspace⟩ := htext
  obtain ⟨_, p, hread, _⟩ := readDocument_front hfront (piecesEnd_list items space)
  obtain ⟨t, rest, htokens, hfinish⟩ := (Cursor.tokens_finish_iff ⟨p, space⟩).mpr hspace
  rw [hread, htokens, List.head?_cons, Option.map_some, hfinish]

/-- Behind a list at its head, a text is blank exactly if it is one list as a whole. -/
theorem isListText_iff {items : List Phrase} {front : List Char}
    (hfront : (Phrase.list items).WrittenAs front) (tail : List Char) :
    IsListText (front ++ tail) ↔ IsSpace tail := by
  constructor
  · intro htext
    obtain ⟨_, p, hread, _⟩ := readDocument_front hfront (piecesEnd_list items tail)
    obtain ⟨t, rest, htokens⟩ := Cursor.exists_tokens ⟨p, tail⟩
    have hfinish := finish_of_isListText htext
    rw [hread, htokens, List.head?_cons, Option.map_some, Option.some_inj] at hfinish
    exact (Cursor.tokens_finish_iff ⟨p, tail⟩).mp ⟨t, rest, htokens, hfinish⟩
  · exact fun htail => ⟨items, front, tail, rfl, hfront, htail⟩

/-- Documentation is read from a list at the head of the text, exactly as if the text ended there.
Every item of that list is an object, but the text need not end there: it is one list as a whole
only if nothing but whitespace follows. -/
theorem load_eq_ok_iff_head (text : String) (objects : List Object) :
    load text = .ok objects ↔
      ∃ items front tail, text.toList = front ++ tail ∧ (Phrase.list items).WrittenAs front ∧
        load (String.ofList front) = .ok objects ∧ items.length = objects.length ∧
        (IsListText text.toList ↔ IsSpace tail) := by
  constructor
  · intro hload
    obtain ⟨items, front, tail, htext, hfront⟩ := front_of_load hload
    have haccepts := (load_front hfront tail).mp (by rwa [← htext, String.ofList_toList])
    have hhead := (load_front hfront []).mpr haccepts
    rw [List.append_nil] at hhead
    obtain ⟨_, _, hitems⟩ := (accepts_list_iff objectReader_follows.placeless).mp haccepts
    exact ⟨items, front, tail, htext, hfront, hhead, hitems.length_eq,
      htext ▸ isListText_iff hfront tail⟩
  · rintro ⟨items, front, tail, htext, hfront, hload, _, _⟩
    rw [← List.append_nil front] at hload
    rw [← @String.ofList_toList text, htext]
    exact (load_front hfront tail).mpr ((load_front hfront []).mp hload)

/-- Two lists in one text. -/
def twoLists : String := "[\x7b\"name\":\"a\"\x7d] [\x7b\"name\":\"b\"\x7d]"

/-- The second list is dropped without a fault. -/
theorem second_list_dropped :
    ∃ objects, load twoLists = .ok objects ∧ objects.map (·.name) = ["a"] ∧
      ¬ IsListText twoLists.toList := by
  have hnames : (load twoLists).toOption.map (·.map (·.name)) = some ["a"] := by decide +kernel
  obtain ⟨objects, hload⟩ := exists_loaded (show (load twoLists).isOk = true by decide +kernel)
  refine ⟨objects, hload, ?_, fun htext => ?_⟩
  · rw [hload] at hnames
    exact Option.some.inj hnames
  · exact absurd (finish_of_isListText htext) (by decide +kernel)

end Typings.Docs
