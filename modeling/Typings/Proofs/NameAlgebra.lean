import Typings.Proofs.TypeNames
import Typings.Typing

/-! # The algebra of type names

Names that are joined by an underscore have their type names joined, so underscores with nothing
between them are lost, wherever they stand. What starts an uppercase form is its own uppercase form.
A type name is therefore its own type name, and a type is referred to by every spelling on the way
from its documented name to its type name.
-/

namespace Typings

open Text

/-! ## Uppercase forms again -/

/-- A number with one bit for each of the codes. -/
def codeBits (codes : List Nat) : Nat :=
  codes.foldr (fun code bits => 1 <<< code ||| bits) 0

/-- The codes of the characters that have an uppercase form other than themselves. -/
def casedCodes : List Nat :=
  uppercaseRuns.flatMap CaseRun.members ++ uppercaseExpansions.map (·.1)

/-- The codes that these uppercase forms start with. -/
def uppercaseCodes : List Nat :=
  (uppercaseRuns.flatMap fun run => run.members.map fun n : Nat => ((n : Int) + run.shift).toNat) ++
    uppercaseExpansions.map (·.2.headD 0)

theorem testBit_codeBits (codes : List Nat) (n : Nat) :
    (codeBits codes).testBit n = decide (n ∈ codes) := by
  induction codes with
  | nil => simp [codeBits]
  | cons code codes ih =>
      rw [codeBits, List.foldr_cons, ← codeBits, Nat.testBit_or, ih, Nat.one_shiftLeft,
        Nat.testBit_two_pow]
      simp [eq_comm]

theorem notMem_casedCodes {n : Nat} (hn : n ∈ uppercaseCodes) :
    (Char.ofNat n).toNat ∉ casedCodes := by
  have hbits : ∀ n ∈ uppercaseCodes,
      (codeBits casedCodes).testBit (Char.ofNat n).toNat = false := by
    decide +kernel
  simpa [testBit_codeBits] using hbits n hn

theorem mem_members {run : CaseRun} {n : Nat} (hcovers : run.covers n = true) :
    n ∈ run.members := by
  simp only [CaseRun.covers, Bool.and_eq_true, decide_eq_true_eq, beq_iff_eq] at hcovers
  obtain ⟨⟨hfirst, hlast⟩, hstep⟩ := hcovers
  have hsteps := Nat.div_mul_cancel (Nat.dvd_of_mod_eq_zero hstep)
  have hle : (n - run.first) / run.stride ≤ (run.last - run.first) / run.stride :=
    Nat.div_le_div_right (by omega)
  refine List.mem_map.mpr ⟨(n - run.first) / run.stride, List.mem_range.mpr (by omega), ?_⟩
  rw [Nat.mul_comm, hsteps]
  omega

theorem uppercase_of_uncased {c : Char} (huncased : c.toNat ∉ casedCodes) : uppercase c = [c] := by
  obtain ⟨entry, hentry, hcode, _⟩ | ⟨run, hrun, hcovers, _⟩ | hsame := uppercase_cases c
  · exact absurd (List.mem_append_right _ (hcode ▸ List.mem_map_of_mem hentry)) huncased
  · have hmem := List.mem_flatMap.mpr ⟨run, hrun, mem_members hcovers⟩
    exact absurd (List.mem_append_left _ hmem) huncased
  · exact hsame

theorem uppercase_ofNat {n : Nat} (hn : n ∈ uppercaseCodes) :
    uppercase (Char.ofNat n) = [Char.ofNat n] :=
  uppercase_of_uncased (notMem_casedCodes hn)

/-- The first character of an uppercase form is its own uppercase form. -/
theorem uppercase_first {c d : Char} {rest : List Char} (hform : uppercase c = d :: rest) :
    uppercase d = [d] := by
  obtain ⟨entry, hentry, _, heq⟩ | ⟨run, hrun, hcovers, heq⟩ | heq := uppercase_cases c
  · rw [heq] at hform
    obtain ⟨code, codes, hcodes, rfl, _⟩ := List.map_eq_cons_iff.mp hform
    have hmem : entry.2.headD 0 ∈ uppercaseCodes :=
      List.mem_append_right _ (List.mem_map_of_mem hentry)
    rw [hcodes] at hmem
    exact uppercase_ofNat hmem
  · obtain ⟨rfl, _⟩ := List.cons.inj (heq.symm.trans hform)
    refine uppercase_ofNat (List.mem_append_left _ (List.mem_flatMap.mpr ⟨run, hrun, ?_⟩))
    exact List.mem_map_of_mem (mem_members hcovers)
  · obtain ⟨rfl, _⟩ := List.cons.inj (heq.symm.trans hform)
    exact heq

/-! ## Capitalized texts -/

/-- Capitalizing again changes nothing, also where capitalized text follows. -/
theorem capitalize_append (cs : List Char) {rest : List Char} (hrest : capitalize rest = rest) :
    capitalize (capitalize cs ++ rest) = capitalize cs ++ rest := by
  cases cs with
  | nil => exact hrest
  | cons c cs =>
      obtain ⟨d, form, hform⟩ := List.exists_cons_of_ne_nil (uppercase_ne_nil c)
      simp only [capitalize, hform, List.cons_append, uppercase_first hform, List.nil_append]

theorem capitalize_capitalize (cs : List Char) : capitalize (capitalize cs) = capitalize cs := by
  have hempty : capitalize [] = [] := rfl
  simpa using capitalize_append cs hempty

theorem capitalize_flatMap (segments : List (List Char)) :
    capitalize (segments.flatMap capitalize) = segments.flatMap capitalize := by
  induction segments with
  | nil => rfl
  | cons segment segments ih => exact capitalize_append segment ih

theorem underscore_notMem_capitalize {segment : List Char} (hsegment : '_' ∉ segment) :
    '_' ∉ capitalize segment := by
  intro hmem
  obtain ⟨d, hd, rfl | hupper⟩ := mem_capitalize hmem
  · exact hsegment hd
  · exact hsegment (eq_underscore_of_mem_uppercase hupper ▸ hd)

/-! ## Laws of type names -/

/-- The given number of underscores. -/
def underscores (n : Nat) : String := String.ofList (List.replicate n '_')

/-- The name with its segments capitalized and its underscores kept. -/
def capitalizeSegments (documented : String) : String :=
  String.ofList (['_'].intercalate ((documented.toList.splitOn '_').map capitalize))

/-- A documented name, the name with capitalized segments, and the type name. -/
def spellings (documented : String) : List String :=
  [documented, capitalizeSegments documented, typeName documented]

/-- An underscore between two names joins their type names. -/
theorem typeName_append (first second : String) :
    typeName (first ++ "_" ++ second) = typeName first ++ typeName second := by
  have hchars : (first ++ "_" ++ second).toList = first.toList ++ '_' :: second.toList := by simp
  rw [← String.toList_inj, String.toList_append]
  simp only [typeName_toList, hchars, List.splitOn_append_cons_self, List.flatMap_append]

theorem typeName_empty : typeName "" = "" := rfl

/-- Underscores with nothing between them count as one. -/
theorem typeName_append_underscores (first second : String) (n : Nat) :
    typeName (first ++ underscores (n + 1) ++ second) = typeName first ++ typeName second := by
  induction n generalizing second with
  | zero => exact typeName_append first second
  | succ n ih =>
      have hlast : first ++ underscores (n + 1 + 1) ++ second =
          first ++ underscores (n + 1) ++ "" ++ "_" ++ second := by
        rw [← String.toList_inj]
        simp [underscores, List.replicate_succ' (n := n + 1)]
      rw [hlast, typeName_append, ih, typeName_empty, String.append_empty]

theorem typeName_leading (documented : String) (n : Nat) :
    typeName (underscores n ++ documented) = typeName documented := by
  cases n with
  | zero => exact congrArg typeName (String.empty_append)
  | succ n => simpa [typeName_empty] using typeName_append_underscores "" documented n

theorem typeName_trailing (documented : String) (n : Nat) :
    typeName (documented ++ underscores n) = typeName documented := by
  cases n with
  | zero => exact congrArg typeName String.append_empty
  | succ n => simpa [typeName_empty] using typeName_append_underscores documented "" n

/-- A type name is its own type name. -/
theorem typeName_typeName (documented : String) :
    typeName (typeName documented) = typeName documented := by
  rw [← String.toList_inj, typeName_toList (typeName documented),
    List.splitOn_eq_singleton (underscore_notMem_typeName documented), List.flatMap_singleton,
    typeName_toList]
  exact capitalize_flatMap _

theorem typeName_capitalizeSegments (documented : String) :
    typeName (capitalizeSegments documented) = typeName documented := by
  have hfree : ∀ segment ∈ (documented.toList.splitOn '_').map capitalize, '_' ∉ segment := by
    refine List.forall_mem_map.mpr fun segment hsegment => underscore_notMem_capitalize ?_
    exact fun hmem => (mem_segment_iff.mp ⟨segment, hsegment, hmem⟩).2 rfl
  have hne : (documented.toList.splitOn '_').map capitalize ≠ [] := by
    simp [List.splitOn_ne_nil]
  rw [← String.toList_inj, typeName_toList, typeName_toList, capitalizeSegments,
    String.toList_ofList, List.splitOn_intercalate '_' hfree hne, List.flatMap_map]
  simp only [capitalize_capitalize]

theorem typeName_spelling {documented spelling : String} (h : spelling ∈ spellings documented) :
    typeName spelling = typeName documented := by
  simp only [spellings, List.mem_cons, List.not_mem_nil, or_false] at h
  obtain rfl | rfl | rfl := h
  · rfl
  · exact typeName_capitalizeSegments documented
  · exact typeName_typeName documented

/-- Type names compose: underscores join the type names of what they separate, and are lost
themselves. A type name is its own type name, so that all spellings of a documented type, unless
they are taken by a type that is built in, stand for the same reference. -/
theorem type_names_compose :
    (∀ first second, typeName (first ++ "_" ++ second) = typeName first ++ typeName second) ∧
    (∀ first second n,
      typeName (first ++ underscores (n + 1) ++ second) = typeName (first ++ "_" ++ second)) ∧
    (∀ documented m n,
      typeName (underscores m ++ documented ++ underscores n) = typeName documented) ∧
    ∀ documented, '_' ∉ (typeName documented).toList ∧
      typeName (typeName documented) = typeName documented ∧
      ∀ spelling ∈ spellings documented, referenceTo spelling = referenceTo documented ∧
        (Primitive.ofName? spelling = none → spelling ≠ "untyped" →
          plainType spelling = referenceTo documented) := by
  refine ⟨typeName_append, fun first second n => ?_, fun documented m n => ?_, fun documented =>
    ⟨underscore_notMem_typeName documented, typeName_typeName documented, fun spelling h => ?_⟩⟩
  · rw [typeName_append_underscores, typeName_append]
  · rw [typeName_trailing, typeName_leading]
  · -- Both read the type name and nothing else of what is documented.
    have hreference : referenceTo spelling = referenceTo documented := by
      rw [referenceTo, referenceTo, typeName_spelling h]
    refine ⟨hreference, fun hprimitive huntyped => ?_⟩
    rw [plainType, hprimitive]
    exact (if_neg huntyped).trans hreference

/-- A product variant is the same type in each spelling. -/
theorem type_names_compose_product_variant :
    plainType "product_variant" = .reference "ProductVariant" ∧
    plainType "Product_Variant" = .reference "ProductVariant" ∧
    plainType "ProductVariant" = .reference "ProductVariant" := by
  obtain ⟨_, _, _, hlaws⟩ := type_names_compose
  obtain ⟨_, _, hspellings⟩ := hlaws "product_variant"
  have hname : typeName "product_variant" = "ProductVariant" := by decide +kernel
  have hvalid : isTypeName "ProductVariant" = true := by decide +kernel
  have hreference : referenceTo "product_variant" = .reference "ProductVariant" := by
    simp only [referenceTo, hname, hvalid, if_true]
  rw [← hreference]
  refine ⟨?_, ?_, ?_⟩ <;>
    exact (hspellings _ (by decide +kernel)).2 (by decide) (by decide)

end Typings
