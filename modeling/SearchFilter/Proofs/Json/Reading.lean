import Mathlib.Tactic.SplitIfs
import SearchFilter.Json

/-!
# Reading JSON

A text is read one character after the other, by a machine that keeps the lists and objects that are
open on a stack.

* `Escape.step` reads what stands behind a backslash, `Reader.step` everything else; `Json.read?`
  reads a text.
* `Reader.run_flatMap_jsonChar`: a text between quotes is read as it was written.
* `Reader.run_write`: a document is read as it was written, whatever is open around it.
* `Json.read?_render`: what is written reads back.
-/

set_option autoImplicit false

namespace SearchFilter
namespace Json

/-! ## Words -/

/-- Whether a character is a blank of JSON. -/
def isSpace (c : Char) : Bool :=
  [' ', '\t', '\n', '\r'].contains c

/-- Whether a number or another word ends before a character. -/
def endsWord (c : Char) : Bool :=
  isSpace c || [',', ']', '\x7d'].contains c

/-- What follows the digits at the front of a text, if there are any. -/
def dropDigits? (cs : List Char) : Option (List Char) :=
  if cs.head?.any Char.isDigit then some (cs.dropWhile Char.isDigit) else none

/-- What follows the whole part of a number.  It starts with a zero only if it is one. -/
def dropWhole? : List Char → Option (List Char)
  | '0' :: cs => some cs
  | cs => dropDigits? cs

/-- What follows the fraction of a number, if it has one. -/
def dropFraction? : List Char → Option (List Char)
  | '.' :: cs => dropDigits? cs
  | cs => some cs

/-- What follows the exponent of a number, if it has one. -/
def dropExponent? : List Char → Option (List Char)
  | 'e' :: '+' :: cs | 'e' :: '-' :: cs | 'E' :: '+' :: cs | 'E' :: '-' :: cs => dropDigits? cs
  | 'e' :: cs | 'E' :: cs => dropDigits? cs
  | cs => some cs

/-- Whether a word is a number. -/
def isNumber (cs : List Char) : Bool :=
  let unsigned := match cs with
    | '-' :: cs => cs
    | _ => cs
  ((dropWhole? unsigned).bind dropFraction?).bind dropExponent? == some []

/-- The document that a word is. -/
def readWord? (cs : List Char) : Option Json :=
  if cs = ['n', 'u', 'l', 'l'] then some .null
  else if cs = ['t', 'r', 'u', 'e'] then some (.bool true)
  else if cs = ['f', 'a', 'l', 's', 'e'] then some (.bool false)
  else if isNumber cs then some (.number (String.ofList cs))
  else none

/-! ## Escapes -/

/-- The character that a character behind a backslash stands for. -/
def unescape? : Char → Option Char
  | '"' => some '"'
  | '\\' => some '\\'
  | '/' => some '/'
  | 'b' => some (Char.ofNat 8)
  | 'f' => some (Char.ofNat 12)
  | 'n' => some '\n'
  | 'r' => some '\r'
  | 't' => some '\t'
  | _ => none

/-- Where reading is behind a backslash. -/
inductive Escape where
  /-- Right behind it. -/
  | backslash
  /-- In the code of a character; `left` digits are to come behind the next one.  `high` is the
  first half of a pair, if this is the second. -/
  | code (high : Option Nat) (left value : Nat)
  /-- Behind the first half of a pair. -/
  | pair (high : Nat)
  /-- Behind the backslash of its second half. -/
  | pairBackslash (high : Nat)
deriving DecidableEq, Repr

/-- What a code stands for: a character, or the first half of a pair of codes for one.  Half of a
pair alone stands for nothing. -/
def ofCode? (high : Option Nat) (value : Nat) : Option (Escape ⊕ Char) :=
  match high with
  | none =>
    if 0xD800 ≤ value ∧ value < 0xDC00 then some (.inl (.pair value))
    else if 0xDC00 ≤ value ∧ value < 0xE000 then none
    else some (.inr (Char.ofNat value))
  | some high =>
    if 0xDC00 ≤ value ∧ value < 0xE000 then
      some (.inr (Char.ofNat (0x10000 + (high - 0xD800) * 0x400 + (value - 0xDC00))))
    else none

/-- One character of an escape; the last one gives the character that is meant. -/
def Escape.step : Escape → Char → Option (Escape ⊕ Char)
  | backslash, c => if c = 'u' then some (.inl (.code none 3 0)) else (unescape? c).map .inr
  | code high left value, c =>
    (Text.hexValue? c).bind fun digit =>
      match left with
      | 0 => ofCode? high (value * 16 + digit)
      | left + 1 => some (.inl (.code high left (value * 16 + digit)))
  | pair high, c => if c = '\\' then some (.inl (.pairBackslash high)) else none
  | pairBackslash high, c => if c = 'u' then some (.inl (.code (some high) 3 0)) else none

/-! ## The machine -/

/-- A list or an object that is open, with what was read of it. -/
inductive Open where
  | list (before : List Json)
  /-- The key is that of the value that is to come. -/
  | object (before : List (String × Json)) (key : String)

/-- What a text between quotes is. -/
inductive TextRole where
  | value
  /-- A key in an object, with the fields before it. -/
  | key (before : List (String × Json))

/-- Where reading is. -/
inductive Reader where
  /-- A value has to come. -/
  | value (stack : List Open)
  /-- A key has to come. -/
  | key (before : List (String × Json)) (stack : List Open)
  /-- The colon behind a key has to come. -/
  | colon (before : List (String × Json)) (key : String) (stack : List Open)
  /-- A document has been read. -/
  | behind (document : Json) (stack : List Open)
  /-- In a word. -/
  | word (chars : List Char) (stack : List Open)
  /-- In a text between quotes. -/
  | text (role : TextRole) (chars : List Char) (escape : Option Escape) (stack : List Open)

namespace Reader

/-- Behind a text between quotes. -/
def closeText (role : TextRole) (chars : List Char) (stack : List Open) : Reader :=
  match role with
  | .value => behind (.string (String.ofList chars)) stack
  | .key before => colon before (String.ofList chars) stack

/-- The character behind a document: it closes what is open, or goes on in it. -/
def goOn (document : Json) (stack : List Open) (c : Char) : Option Reader :=
  if isSpace c then some (behind document stack)
  else
    match stack with
    | [] => none
    | .list before :: stack =>
      if c = ',' then some (value (.list (before ++ [document]) :: stack))
      else if c = ']' then some (behind (.array (before ++ [document])) stack)
      else none
    | .object before name :: stack =>
      if c = ',' then some (key (before ++ [(name, document)]) stack)
      else if c = '\x7d' then some (behind (.object (before ++ [(name, document)])) stack)
      else none

/-- The first character of a value.  A list may be closed where its first value could start. -/
def startValue (stack : List Open) (c : Char) : Option Reader :=
  if isSpace c then some (value stack)
  else if c = '"' then some (text .value [] none stack)
  else if c = '[' then some (value (.list [] :: stack))
  else if c = '\x7b' then some (key [] stack)
  else if c = ']' then
    match stack with
    | .list [] :: stack => some (behind (.array []) stack)
    | _ => none
  else if endsWord c then none
  else some (word [c] stack)

/-- One character of a document. -/
def step : Reader → Char → Option Reader
  | value stack, c => startValue stack c
  | key before stack, c =>
    if isSpace c then some (key before stack)
    else if c = '"' then some (text (.key before) [] none stack)
    else if c = '\x7d' ∧ before.isEmpty then some (behind (.object []) stack)
    else none
  | colon before name stack, c =>
    if isSpace c then some (colon before name stack)
    else if c = ':' then some (value (.object before name :: stack))
    else none
  | behind document stack, c => goOn document stack c
  | word chars stack, c =>
    if endsWord c then (readWord? chars).bind (goOn · stack c)
    else some (word (chars ++ [c]) stack)
  | text role chars none stack, c =>
    if c = '"' then some (closeText role chars stack)
    else if c = '\\' then some (text role chars (some .backslash) stack)
    else if c.toNat < 32 then none
    else some (text role (chars ++ [c]) none stack)
  | text role chars (some escape) stack, c =>
    (escape.step c).map fun
      | .inl escape => text role chars (some escape) stack
      | .inr c => text role (chars ++ [c]) none stack

/-- The characters of a text, one after the other. -/
def run (reader : Reader) (cs : List Char) : Option Reader :=
  cs.foldlM step reader

/-- The document, if it has been read and nothing is open. -/
def document? : Reader → Option Json
  | behind document [] => some document
  | _ => none

end Reader

/-- **The document that a text is.**  A line end is put behind the text, so that a word at its end is
ended as everywhere else. -/
def read? (s : String) : Option Json :=
  ((Reader.value []).run (s.toList ++ ['\n'])).bind Reader.document?

example : read? "[1, -2.5e3 , [ ], true]" =
    some (.array [.number "1", .number "-2.5e3", .array [], .bool true]) := rfl

example : read? "[01]" = none ∧ read? "[1,]" = none ∧ read? "\"" = none ∧ read? "1 2" = none :=
  ⟨rfl, rfl, rfl, rfl⟩

example : read? "\"\\ud83d\\ude00\\u00e9\"" = some (.string "😀é") := rfl

/-! ## Reading what was written -/

/-- A document without numbers: these keep the text in which they were given, whatever it is. -/
inductive NumberFree : Json → Prop
  | null : NumberFree null
  | bool (b : Bool) : NumberFree (bool b)
  | string (s : String) : NumberFree (string s)
  | array {items : List Json} (h : ∀ item ∈ items, NumberFree item) : NumberFree (array items)
  | object {fields : List (String × Json)} (h : ∀ field ∈ fields, NumberFree field.2) :
      NumberFree (object fields)

namespace Reader

theorem run_cons (reader : Reader) (c : Char) (cs : List Char) :
    reader.run (c :: cs) = (reader.step c).bind (run · cs) :=
  rfl

theorem run_cons_of_step {reader next : Reader} {c : Char} (h : reader.step c = some next)
    (cs : List Char) : reader.run (c :: cs) = next.run cs := by
  rw [run_cons, h, Option.bind_some]

/-! ### Blanks -/

theorem step_value_of_isSpace (stack : List Open) {c : Char} (h : isSpace c = true) :
    (value stack).step c = some (value stack) :=
  if_pos h

theorem step_key_of_isSpace (before : List (String × Json)) (stack : List Open) {c : Char}
    (h : isSpace c = true) : (key before stack).step c = some (key before stack) :=
  if_pos h

theorem step_behind_of_isSpace (document : Json) (stack : List Open) {c : Char}
    (h : isSpace c = true) : (behind document stack).step c = some (behind document stack) :=
  if_pos h

/-- A new line does not change where blanks do not. -/
theorem run_newline {reader : Reader} (h : ∀ {c}, isSpace c = true → reader.step c = some reader)
    (depth : Nat) (rest : List Char) : reader.run (newline depth ++ rest) = reader.run rest := by
  have hblanks : ∀ n, reader.run (List.replicate n ' ' ++ rest) = reader.run rest := by
    intro n
    induction n with
    | zero => rfl
    | succ n ih =>
      rw [List.replicate_succ, List.cons_append, run_cons_of_step (h rfl), ih]
  rw [newline, List.cons_append, run_cons_of_step (h rfl), hblanks]

/-! ### Texts -/

theorem run_hexDigit {role : TextRole} {chars rest : List Char} {stack : List Open}
    {high : Option Nat} {left value v : Nat} (hv : v < 16) :
    (text role chars (some (.code high (left + 1) value)) stack).run (Text.digitChar v :: rest) =
      (text role chars (some (.code high left (value * 16 + v))) stack).run rest := by
  refine run_cons_of_step ?_ rest
  rw [step, Escape.step, Text.hexValue?_digitChar hv]
  rfl

/-- **A code of four digits** is read as the character that it is the code of. -/
theorem run_padded (role : TextRole) (chars rest : List Char) (stack : List Open) {n : Nat}
    (hn : n < 0xD800) :
    (text role chars (some (.code none 3 0)) stack).run (Text.padded 16 4 n ++ rest) =
      (text role (chars ++ [Char.ofNat n]) none stack).run rest := by
  have hdigits : Text.padded 16 4 n = [Text.digitChar (n / 16 / 16 / 16 % 16),
      Text.digitChar (n / 16 / 16 % 16), Text.digitChar (n / 16 % 16), Text.digitChar (n % 16)] :=
    rfl
  have hlt : ∀ m, m % 16 < 16 := fun m ↦ Nat.mod_lt m (by decide)
  have hvalue : (((0 * 16 + n / 16 / 16 / 16 % 16) * 16 + n / 16 / 16 % 16) * 16 + n / 16 % 16) *
      16 + n % 16 = n := by omega
  simp only [hdigits, List.cons_append, List.nil_append]
  rw [run_hexDigit (hlt _), run_hexDigit (hlt _), run_hexDigit (hlt _)]
  refine run_cons_of_step ?_ rest
  rw [step, Escape.step, Text.hexValue?_digitChar (hlt _), Option.bind_some, hvalue, ofCode?,
    if_neg (by omega), if_neg (by omega)]
  rfl

/-- **A character is read as it was written**, escaped or not. -/
theorem run_jsonChar (role : TextRole) (chars rest : List Char) (stack : List Open) (c : Char) :
    (text role chars none stack).run (jsonChar c ++ rest) =
      (text role (chars ++ [c]) none stack).run rest := by
  have hcode : ∀ {n}, c.toNat = n → c = Char.ofNat n := fun h ↦ by rw [← h, Char.ofNat_toNat]
  unfold jsonChar
  split_ifs with hmark hline hreturn htab hback hfeed hcontrol
  · rcases Bool.or_eq_true_iff.1 hmark with h | h <;> rw [of_decide_eq_true h] <;> rfl
  · rw [hline]; rfl
  · rw [hreturn]; rfl
  · rw [htab]; rfl
  · rw [hcode hback]; rfl
  · rw [hcode hfeed]; rfl
  · have hopen : (text role chars none stack).run ('\\' :: 'u' :: Text.padded 16 4 c.toNat ++ rest) =
        (text role chars (some (.code none 3 0)) stack).run (Text.padded 16 4 c.toNat ++ rest) := rfl
    rw [hopen, run_padded role chars rest stack (by omega), Char.ofNat_toNat]
  · have hquote : c ≠ '"' := by rintro rfl; exact hmark rfl
    have hslash : c ≠ '\\' := by rintro rfl; exact hmark rfl
    refine run_cons_of_step ?_ rest
    rw [step, if_neg hquote, if_neg hslash, if_neg hcontrol]

/-- **A text is read as it was written**, up to the quotes behind it. -/
theorem run_flatMap_jsonChar (role : TextRole) (chars cs rest : List Char) (stack : List Open) :
    (text role chars none stack).run (cs.flatMap jsonChar ++ '"' :: rest) =
      (closeText role (chars ++ cs) stack).run rest := by
  induction cs generalizing chars with
  | nil => rw [List.append_nil]; rfl
  | cons c cs ih =>
    rw [List.flatMap_cons, List.append_assoc, run_jsonChar, ih, List.append_assoc,
      List.singleton_append]

theorem run_writeString {reader : Reader} {role : TextRole} {stack : List Open}
    (h : reader.step '"' = some (text role [] none stack)) (s : String) (rest : List Char) :
    reader.run (writeString s ++ rest) = (closeText role s.toList stack).run rest := by
  rw [writeString, List.append_assoc, List.cons_append, run_cons_of_step h, List.singleton_append,
    run_flatMap_jsonChar, List.nil_append]

/-! ### Documents -/

/-- Whether a document is read as it was written, whatever is open around it. -/
def ReadsBack (document : Json) : Prop :=
  ∀ (depth : Nat) (stack : List Open) (rest : List Char), rest.head?.any endsWord = true →
    (value stack).run (document.write depth ++ rest) = (behind document stack).run rest

/-- A word is ended by what stands behind it. -/
theorem run_word {chars rest : List Char} {document : Json} (hword : readWord? chars = some document)
    (stack : List Open) (hrest : rest.head?.any endsWord = true) :
    (word chars stack).run rest = (behind document stack).run rest := by
  cases rest with
  | nil => exact absurd hrest Bool.false_ne_true
  | cons c rest =>
    have hends : endsWord c = true := hrest
    have hstep : (word chars stack).step c = (behind document stack).step c := by
      simp only [step, hends, hword, if_true, Option.bind_some]
    rw [run_cons, run_cons, hstep]

theorem endsWord_head?_writeItems (depth : Nat) (items : List Json) (rest : List Char) :
    (writeItems depth items ++ rest).head?.any endsWord = true := by
  cases items <;> rfl

theorem endsWord_head?_writeFields (depth : Nat) (fields : List (String × Json))
    (rest : List Char) : (writeFields depth fields ++ rest).head?.any endsWord = true := by
  cases fields <;> rfl

/-- The items of a list behind the first. -/
theorem run_writeItems {items : List Json} (h : ∀ item ∈ items, ReadsBack item) (depth : Nat)
    (before : List Json) (item : Json) (stack : List Open) (rest : List Char) :
    (behind item (.list before :: stack)).run (writeItems depth items ++ rest) =
      (behind (.array (before ++ item :: items)) stack).run rest := by
  induction items generalizing before item with
  | nil =>
    rw [writeItems, List.append_assoc, run_newline (step_behind_of_isSpace item _)]
    rfl
  | cons next items ih =>
    have hnext := h next List.mem_cons_self
    have hcomma : (behind item (.list before :: stack)).step ',' =
        some (value (.list (before ++ [item]) :: stack)) := rfl
    rw [writeItems, List.append_assoc, List.append_assoc, List.cons_append,
      run_cons_of_step hcomma, run_newline (step_value_of_isSpace _),
      hnext _ _ _ (endsWord_head?_writeItems ..), ih fun i hi ↦ h i (List.mem_cons_of_mem _ hi),
      List.append_assoc, List.singleton_append]

/-- A key and its value. -/
theorem run_writeField {name : String} {document : Json} (h : ReadsBack document) (depth : Nat)
    (before : List (String × Json)) (stack : List Open) {rest : List Char}
    (hrest : rest.head?.any endsWord = true) :
    (key before stack).run (writeField depth (name, document) ++ rest) =
      (behind document (.object before name :: stack)).run rest := by
  have hquote : (key before stack).step '"' = some (text (.key before) [] none stack) := rfl
  have hcolon : (colon before name stack).run (':' :: ' ' :: (document.write depth ++ rest)) =
      (value (.object before name :: stack)).run (document.write depth ++ rest) := rfl
  rw [writeField, List.append_assoc, run_writeString hquote, closeText, String.ofList_toList,
    List.cons_append, List.cons_append, hcolon, h _ _ _ hrest]

/-- The fields of an object behind the first. -/
theorem run_writeFields {fields : List (String × Json)} (h : ∀ field ∈ fields, ReadsBack field.2)
    (depth : Nat) (before : List (String × Json)) (name : String) (document : Json)
    (stack : List Open) (rest : List Char) :
    (behind document (.object before name :: stack)).run (writeFields depth fields ++ rest) =
      (behind (.object (before ++ (name, document) :: fields)) stack).run rest := by
  induction fields generalizing before name document with
  | nil =>
    rw [writeFields, List.append_assoc, run_newline (step_behind_of_isSpace document _)]
    rfl
  | cons next fields ih =>
    obtain ⟨nextName, nextDocument⟩ := next
    have hnext : ReadsBack nextDocument := h _ List.mem_cons_self
    have hcomma : (behind document (.object before name :: stack)).step ',' =
        some (key (before ++ [(name, document)]) stack) := rfl
    rw [writeFields, List.append_assoc, List.append_assoc, List.cons_append,
      run_cons_of_step hcomma, run_newline (step_key_of_isSpace _ _),
      run_writeField hnext _ _ _ (endsWord_head?_writeFields ..),
      ih fun f hf ↦ h f (List.mem_cons_of_mem _ hf), List.append_assoc, List.singleton_append]

/-- **A document without numbers is read as it was written**, whatever is open around it. -/
theorem run_write {document : Json} (h : NumberFree document) : ReadsBack document := by
  induction h with
  | null =>
    intro depth stack rest hrest
    have hword : readWord? ['n', 'u', 'l', 'l'] = some .null := rfl
    exact run_word hword stack hrest
  | bool b =>
    intro depth stack rest hrest
    cases b with
    | false =>
      have hword : readWord? ['f', 'a', 'l', 's', 'e'] = some (.bool false) := rfl
      exact run_word hword stack hrest
    | true =>
      have hword : readWord? ['t', 'r', 'u', 'e'] = some (.bool true) := rfl
      exact run_word hword stack hrest
  | string s =>
    intro depth stack rest hrest
    have hquote : (value stack).step '"' = some (text .value [] none stack) := rfl
    rw [write, run_writeString hquote, closeText, String.ofList_toList]
  | @array items _ ih =>
    intro depth stack rest hrest
    cases items with
    | nil => rfl
    | cons item items =>
      have hopen : (value stack).step '[' = some (value (.list [] :: stack)) := rfl
      rw [write, List.append_assoc, List.append_assoc, List.cons_append, run_cons_of_step hopen,
        run_newline (step_value_of_isSpace _),
        ih item List.mem_cons_self _ _ _ (endsWord_head?_writeItems ..),
        run_writeItems fun i hi ↦ ih i (List.mem_cons_of_mem _ hi)]
      rfl
  | @object fields _ ih =>
    intro depth stack rest hrest
    cases fields with
    | nil => rfl
    | cons field fields =>
      obtain ⟨name, document⟩ := field
      have hfirst : ReadsBack document := ih _ List.mem_cons_self
      have hopen : (value stack).step '\x7b' = some (key [] stack) := rfl
      rw [write, List.append_assoc, List.append_assoc, List.cons_append, run_cons_of_step hopen,
        run_newline (step_key_of_isSpace _ _),
        run_writeField hfirst _ _ _ (endsWord_head?_writeFields ..),
        run_writeFields fun f hf ↦ ih f (List.mem_cons_of_mem _ hf)]
      rfl

end Reader

/-- **What is written reads back.** -/
theorem read?_render {document : Json} (h : NumberFree document) :
    read? document.render = some document := by
  rw [read?, render, String.toList_ofList, Reader.run_write h 0 [] ['\n'] rfl]
  rfl

end Json
end SearchFilter
