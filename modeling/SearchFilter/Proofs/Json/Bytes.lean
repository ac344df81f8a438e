import Mathlib.Tactic.SplitIfs
import SearchFilter.Json
import SearchFilter.Text.Utf8

/-!
# JSON documents as bytes

What a document holds besides texts is written with ASCII characters, and so are the escapes.  Whatever
holds of these holds of the whole document when it holds of its texts.

* `Text.encodeFault?_eq_none_iff`: which texts can be kept as bytes.
* `Json.texts` lists the texts of a document, keys among them.
* `Json.all_write` compares a document as it is written with its texts.
* `Json.isEncodable_render`: a document can be kept as bytes just when its texts can be.
-/

set_option autoImplicit false

namespace SearchFilter

/-! ## Texts that have bytes -/

namespace Text

open Surroundings

section

variable [Surroundings]

theorem surrogate?_eq_none_of_ascii {c : Char} (h : c.toNat < 128) : surrogate? c = none := by
  refine Option.eq_none_iff_forall_ne_some.2 fun n hn ↦ ?_
  obtain ⟨r, hr, hlow, -⟩ := Unicode.inRanges_iff.1 (isPrivate_of_eq_some hn)
  have hleast : ∀ r ∈ Unicode.privateRanges, 128 ≤ r.1 := by decide
  have := hleast r hr
  omega

/-- A text of ASCII characters has bytes. -/
theorem isEncodable_of_ascii {s : String} (h : s.toList.all (·.toNat < 128) = true) :
    isEncodable s = true := by
  refine List.all_eq_true.2 fun c hc ↦ ?_
  rw [surrogate?_eq_none_of_ascii (of_decide_eq_true (List.all_eq_true.1 h c hc))]
  rfl

theorem encodeFaultFrom?_eq_none_iff {known : Nat → Bool} {position : Nat} {cs : List Char} :
    encodeFaultFrom? known position cs = none ↔ ∀ c ∈ cs, (surrogate? c).filter (!known ·) = none := by
  induction cs generalizing position with
  | nil => exact iff_of_true rfl (List.forall_mem_nil _)
  | cons c cs ih =>
    rw [encodeFaultFrom?, List.forall_mem_cons]
    cases hc : (surrogate? c).filter (!known ·) with
    | none => simp only [ih, true_and]
    | some n => simp

/-- **A text is written unless it has a surrogate in it.** -/
theorem encodeFault?_eq_none_iff {s : String} : encodeFault? s = none ↔ isEncodable s = true := by
  have hsame : ∀ c, (surrogate? c).filter (fun _ ↦ !false) = surrogate? c := fun c ↦ by
    cases surrogate? c <;> rfl
  rw [encodeFault?, encodeFaultFrom?_eq_none_iff, isEncodable, List.all_eq_true]
  simp only [hsame, Option.isNone_iff_eq_none]

end

end Text

/-! ## Texts of documents -/

namespace Json

mutual

/-- The texts of a document, in order. -/
def texts : Json → List String
  | null | bool _ => []
  | number literal => [literal]
  | string s => [s]
  | array items => textsOfItems items
  | object fields => textsOfFields fields
termination_by structural document => document

/-- The texts of some documents. -/
def textsOfItems : List Json → List String
  | [] => []
  | item :: items => texts item ++ textsOfItems items
termination_by structural items => items

/-- A key, and the texts of its value. -/
def textsOfField : String × Json → List String
  | (key, value) => key :: texts value
termination_by structural field => field

/-- The texts of some fields. -/
def textsOfFields : List (String × Json) → List String
  | [] => []
  | field :: fields => textsOfField field ++ textsOfFields fields
termination_by structural fields => fields

end

theorem textsOfItems_eq_flatMap (items : List Json) : textsOfItems items = items.flatMap texts := by
  induction items with
  | nil => rfl
  | cons item items ih => rw [textsOfItems, ih, List.flatMap_cons]

/-! ## Parts of a document -/

section

variable {p : Char → Bool}

theorem all_newline (hascii : ∀ c, c.toNat < 128 → p c = true) (depth : Nat) :
    (newline depth).all p = true := by
  rw [newline, List.all_cons, hascii '\n' (by decide), Bool.true_and]
  exact List.all_eq_true.2 fun c hc ↦ List.eq_of_mem_replicate hc ▸ hascii ' ' (by decide)

/-- Numbers are written in digits. -/
theorem all_padded (hascii : ∀ c, c.toNat < 128 → p c = true) {base : Nat} (hpos : 0 < base)
    (hbase : base ≤ 16) (width n : Nat) : (Text.padded base width n).all p = true := by
  have hdigit : ∀ v < 16, (Text.digitChar v).toNat < 128 := by decide
  induction width generalizing n with
  | zero => rfl
  | succ width ih =>
    rw [Text.padded, List.all_append, ih, Bool.true_and, List.all_cons, List.all_nil,
      hascii _ (hdigit _ (by have := Nat.mod_lt n hpos; omega)), Bool.and_true]

/-- Only what is an ASCII character is written as an escape. -/
theorem all_jsonChar (hascii : ∀ c, c.toNat < 128 → p c = true) (c : Char) :
    (jsonChar c).all p = p c := by
  have hslash : p '\\' = true := hascii '\\' (by decide)
  have hescape : ∀ d, d.toNat < 128 → c.toNat < 128 → ['\\', d].all p = p c := fun d hd hc ↦ by
    rw [List.all_cons, List.all_cons, List.all_nil, hslash, hascii d hd, hascii c hc]
    rfl
  unfold jsonChar
  split_ifs with hmark hline hreturn htab hback hfeed hcontrol
  · have hc : c.toNat < 128 := by
      rcases Bool.or_eq_true_iff.1 hmark with h | h <;> rw [of_decide_eq_true h] <;> decide
    exact hescape c hc hc
  · exact hescape _ (by decide) (by rw [hline]; decide)
  · exact hescape _ (by decide) (by rw [hreturn]; decide)
  · exact hescape _ (by decide) (by rw [htab]; decide)
  · exact hescape _ (by decide) (by omega)
  · exact hescape _ (by decide) (by omega)
  · rw [List.all_cons, List.all_cons, all_padded hascii (by decide) (by decide), hslash,
      hascii 'u' (by decide), hascii c (by omega)]
    rfl
  · rw [List.all_cons, List.all_nil, Bool.and_true]

theorem all_writeString (hascii : ∀ c, c.toNat < 128 → p c = true) (s : String) :
    (writeString s).all p = s.toList.all p := by
  have hquote : p '"' = true := hascii '"' (by decide)
  rw [writeString, List.all_append, List.all_cons, List.all_flatMap, List.all_cons, List.all_nil, hquote,
    Bool.true_and, Bool.and_true, Bool.and_true]
  simp only [all_jsonChar hascii]

/-! ## Documents -/

mutual

/-- **A document holds what its texts hold**, and ASCII characters. -/
theorem all_write (hascii : ∀ c, c.toNat < 128 → p c = true) (depth : Nat) (document : Json) :
    (document.write depth).all p = document.texts.all (·.toList.all p) := by
  cases document with
  | null => simp [write, texts, hascii]
  | bool b => cases b <;> simp [write, texts, hascii]
  | number literal => simp [write, texts]
  | string s => simp [write, texts, all_writeString hascii]
  | array items =>
    cases items with
    | nil => simp [write, texts, textsOfItems, hascii]
    | cons item items =>
      rw [write, List.all_append, List.all_append, List.all_cons, hascii '[' (by decide),
        all_newline hascii, all_write hascii (depth + 1) item, all_writeItems hascii depth items, texts,
        textsOfItems, List.all_append]
      rfl
  | object fields =>
    cases fields with
    | nil => simp [write, texts, textsOfFields, hascii]
    | cons field fields =>
      rw [write, List.all_append, List.all_append, List.all_cons, hascii '\x7b' (by decide),
        all_newline hascii, all_writeField hascii (depth + 1) field,
        all_writeFields hascii depth fields, texts, textsOfFields, List.all_append]
      rfl
termination_by structural document

theorem all_writeItems (hascii : ∀ c, c.toNat < 128 → p c = true) (depth : Nat) (items : List Json) :
    (writeItems depth items).all p = (textsOfItems items).all (·.toList.all p) := by
  cases items with
  | nil => simp [writeItems, textsOfItems, hascii, all_newline hascii]
  | cons item items =>
    rw [writeItems, List.all_append, List.all_append, List.all_cons, hascii ',' (by decide),
      all_newline hascii, all_write hascii (depth + 1) item, all_writeItems hascii depth items,
      textsOfItems, List.all_append]
    rfl
termination_by structural items

theorem all_writeField (hascii : ∀ c, c.toNat < 128 → p c = true) (depth : Nat)
    (field : String × Json) :
    (writeField depth field).all p = (textsOfField field).all (·.toList.all p) := by
  obtain ⟨key, value⟩ := field
  rw [writeField, List.all_append, all_writeString hascii, List.all_cons, List.all_cons,
    hascii ':' (by decide), hascii ' ' (by decide), all_write hascii depth value, textsOfField,
    List.all_cons]
  rfl
termination_by structural field

theorem all_writeFields (hascii : ∀ c, c.toNat < 128 → p c = true) (depth : Nat)
    (fields : List (String × Json)) :
    (writeFields depth fields).all p = (textsOfFields fields).all (·.toList.all p) := by
  cases fields with
  | nil => simp [writeFields, textsOfFields, hascii, all_newline hascii]
  | cons field fields =>
    rw [writeFields, List.all_append, List.all_append, List.all_cons, hascii ',' (by decide),
      all_newline hascii, all_writeField hascii (depth + 1) field, all_writeFields hascii depth fields,
      textsOfFields, List.all_append]
    rfl
termination_by structural fields

end

end

/-! ## Bytes -/

/-- **A document can be kept as bytes** just when its texts can be. -/
theorem isEncodable_render [Surroundings] (document : Json) :
    Text.isEncodable document.render = document.texts.all Text.isEncodable := by
  rw [Text.isEncodable, render, String.toList_ofList]
  exact all_write (fun c hc ↦ by rw [Text.surrogate?_eq_none_of_ascii hc]; rfl) 0 document

end Json
end SearchFilter
