import Mathlib.Data.List.Sort
import Mathlib.Data.List.Lex
import Mathlib.Data.String.Basic
import LongBridge.Python.Sorting

namespace LongBridge

section codes
variable {α β : Type}

-- No text of a value is the beginning of the text of another one.
def PrefixFree (write : α → List Char) : Prop :=
  ∀ one two first second, write one ++ first = write two ++ second → one = two ∧ first = second

theorem PrefixFree.injective {write : α → List Char} (free : PrefixFree write) : Function.Injective write := by
  intro one two same
  exact (free one two [] [] (by rw [same])).1

-- What a reader finds in front of any rest is the value that was written.
theorem prefixFree_of_reads {write : α → List Char} (read : List Char → Option (α × List Char))
    (reads : ∀ value rest, read (write value ++ rest) = some (value,rest)) : PrefixFree write := by
  intro one two first second same
  have front := reads one first
  rw [same,reads two second] at front
  obtain ⟨values,rests⟩ := Prod.mk.inj (Option.some.inj front)
  exact ⟨values.symm,rests.symm⟩

-- One value after another, up to a mark that begins none of them
theorem prefixFree_until {write : α → List Char} (free : PrefixFree write) {mark : Char}
    (unmarked : ∀ value, ∃ head rest, write value = head :: rest ∧ head ≠ mark) :
    PrefixFree fun values : List α => values.flatMap write ++ [mark] := by
  intro one two first second same
  induction one generalizing two with
  | nil =>
    cases two with
    | nil => exact ⟨rfl,(List.cons.inj same).2⟩
    | cons head rest =>
      obtain ⟨start,others,begins,apart⟩ := unmarked head
      simp only [List.flatMap_nil,List.flatMap_cons,begins,List.nil_append,List.cons_append] at same
      exact absurd (List.cons.inj same).1.symm apart
  | cons value values ih =>
    cases two with
    | nil =>
      obtain ⟨start,others,begins,apart⟩ := unmarked value
      simp only [List.flatMap_nil,List.flatMap_cons,begins,List.nil_append,List.cons_append] at same
      exact absurd (List.cons.inj same).1 apart
    | cons head rest =>
      simp only [List.flatMap_cons,List.append_assoc] at same
      obtain ⟨rfl,left⟩ := free _ _ _ _ same
      obtain ⟨rfl,ends⟩ := ih rest (by simpa only [List.append_assoc] using left)
      exact ⟨rfl,ends⟩

end codes

section strings

def quoteMark : Char := Char.ofNat 34

def backslash : Char := Char.ofNat 92

def hexDigit (value : ℕ) : Char := if value < 10 then Char.ofNat (48 + value) else Char.ofNat (87 + value)

def hexValue (char : Char) : ℕ := if char.toNat < 58 then char.toNat - 48 else char.toNat - 87

theorem hexValue_hexDigit {value : ℕ} (small : value < 16) : hexValue (hexDigit value) = value := by
  have all : ∀ value < 16, hexValue (hexDigit value) = value := by decide
  exact all value small

-- A code unit, as a backslash, `u` and four digits
def escapeUnit (code : ℕ) : List Char :=
  [backslash,'u',hexDigit (code / 4096 % 16),hexDigit (code / 256 % 16),hexDigit (code / 16 % 16),hexDigit (code % 16)]

def shortEscapes : List (ℕ × Char) := [(34,quoteMark),(92,backslash),(10,'n'),(13,'r'),(9,'t'),(12,'f'),(8,'b')]

-- The text of one letter in `json.dumps`; what is not printable ASCII is written in code units.
def escapeChar (char : Char) : List Char :=
  let code := char.toNat
  match shortEscapes.lookup code with
  | some letter => [backslash,letter]
  | none =>
    if 32 ≤ code ∧ code ≤ 126 then [char]
    else if code < 65536 then escapeUnit code
    else escapeUnit (55296 + (code - 65536) / 1024) ++ escapeUnit (56320 + (code - 65536) % 1024)

def readUnit : List Char → Option (ℕ × List Char)
  | mark :: 'u' :: one :: two :: three :: four :: rest =>
    if mark = backslash then some (hexValue one * 4096 + hexValue two * 256 + hexValue three * 16 + hexValue four,rest) else none
  | _ => none

theorem readUnit_escapeUnit {code : ℕ} (small : code < 65536) (rest : List Char) : readUnit (escapeUnit code ++ rest) = some (code,rest) := by
  show (if backslash = backslash then some (hexValue (hexDigit (code / 4096 % 16)) * 4096 + hexValue (hexDigit (code / 256 % 16)) * 256 +
    hexValue (hexDigit (code / 16 % 16)) * 16 + hexValue (hexDigit (code % 16)),rest) else none) = _
  rw [if_pos rfl,hexValue_hexDigit (by omega),hexValue_hexDigit (by omega),hexValue_hexDigit (by omega),hexValue_hexDigit (by omega)]
  congr 2
  omega

def shortCode (letter : Char) : Option ℕ := (shortEscapes.find? fun entry => entry.2 == letter).map Prod.fst

-- One letter in front of a text
def readEscaped (chars : List Char) : Option (Char × List Char) :=
  match chars with
  | [] => none
  | head :: rest =>
    if head = backslash then
      match rest with
      | 'u' :: _ => do
        let (code,after) ← readUnit chars
        if 55296 ≤ code ∧ code < 56320 then do
          let (low,last) ← readUnit after
          return (Char.ofNat (65536 + (code - 55296) * 1024 + (low - 56320)),last)
        else return (Char.ofNat code,after)
      | letter :: after => (shortCode letter).map fun code => (Char.ofNat code,after)
      | [] => none
    else some (head,rest)

theorem escapeUnit_head (code : ℕ) (rest : List Char) : ∃ behind, escapeUnit code ++ rest = backslash :: 'u' :: behind := ⟨_,rfl⟩

theorem readEscaped_unit {code : ℕ} (small : code < 65536) (plain : ¬ (55296 ≤ code ∧ code < 56320)) (rest : List Char) :
    readEscaped (escapeUnit code ++ rest) = some (Char.ofNat code,rest) := by
  have read := readUnit_escapeUnit small rest
  obtain ⟨behind,begins⟩ := escapeUnit_head code rest
  rw [begins] at read ⊢
  unfold readEscaped
  dsimp only
  rw [if_pos rfl,read]
  dsimp only [Option.bind_eq_bind,Option.bind_some]
  rw [if_neg plain]
  rfl

theorem readEscaped_pair {high low : ℕ} (first : 55296 ≤ high ∧ high < 56320) (second : low < 65536) (rest : List Char) :
    readEscaped (escapeUnit high ++ escapeUnit low ++ rest) = some (Char.ofNat (65536 + (high - 55296) * 1024 + (low - 56320)),rest) := by
  rw [List.append_assoc]
  have read := readUnit_escapeUnit (by omega : high < 65536) (escapeUnit low ++ rest)
  have next := readUnit_escapeUnit second rest
  obtain ⟨behind,begins⟩ := escapeUnit_head high (escapeUnit low ++ rest)
  rw [begins] at read ⊢
  unfold readEscaped
  dsimp only
  rw [if_pos rfl,read]
  dsimp only [Option.bind_eq_bind,Option.bind_some]
  rw [if_pos first,next]
  rfl

theorem shortEscapes_read : ∀ entry ∈ shortEscapes, entry.2 ≠ 'u' ∧ shortCode entry.2 = some entry.1 := by decide

theorem readEscaped_escapeChar (char : Char) (rest : List Char) : readEscaped (escapeChar char ++ rest) = some (char,rest) := by
  have back : Char.ofNat char.toNat = char := Char.ofNat_toNat char
  unfold escapeChar
  dsimp only
  cases short : shortEscapes.lookup char.toNat with
  | some letter =>
    have listed : (char.toNat,letter) ∈ shortEscapes := by
      obtain ⟨before,after,parts,_⟩ := List.lookup_eq_some_iff.mp short
      rw [parts]
      exact List.mem_append_right _ List.mem_cons_self
    obtain ⟨plain,code⟩ := shortEscapes_read _ listed
    show readEscaped (backslash :: letter :: rest) = _
    unfold readEscaped
    dsimp only
    rw [if_pos rfl]
    split
    · rename_i same
      exact absurd (List.cons.inj same).1 plain
    · rename_i other behind _ same
      obtain ⟨rfl,rfl⟩ := List.cons.inj same
      rw [code]
      show some (Char.ofNat char.toNat,_) = _
      rw [back]
    · rename_i same
      cases same
  | none =>
    dsimp only
    by_cases shown : 32 ≤ char.toNat ∧ char.toNat ≤ 126
    · rw [if_pos shown]
      have unlike : char ≠ backslash := by
        rintro rfl
        cases short
      show readEscaped (char :: rest) = _
      unfold readEscaped
      dsimp only
      rw [if_neg unlike]
    · rw [if_neg shown]
      have valid := char.valid
      by_cases basic : char.toNat < 65536
      · rw [if_pos basic]
        have plain : ¬ (55296 ≤ char.toNat ∧ char.toNat < 56320) := by
          rcases valid with low | high
          · have : char.toNat < 55296 := low
            omega
          · have : 57343 < char.toNat := high.1
            omega
        rw [readEscaped_unit basic plain,back]
      · rw [if_neg basic]
        have bound : char.toNat < 1114112 := by
          rcases valid with low | high
          · have : char.toNat < 55296 := low
            omega
          · exact high.2
        rw [readEscaped_pair (by omega) (by omega)]
        have whole : 65536 + (55296 + (char.toNat - 65536) / 1024 - 55296) * 1024 + (56320 + (char.toNat - 65536) % 1024 - 56320) = char.toNat := by
          omega
        rw [whole,back]

theorem escapeChar_free : PrefixFree escapeChar := prefixFree_of_reads readEscaped readEscaped_escapeChar

theorem escapeChar_begins (char : Char) : ∃ head rest, escapeChar char = head :: rest ∧ head ≠ quoteMark := by
  unfold escapeChar
  dsimp only
  cases short : shortEscapes.lookup char.toNat with
  | some letter => exact ⟨backslash,_,rfl,by decide⟩
  | none =>
    dsimp only
    split
    · refine ⟨char,[],rfl,?_⟩
      rintro rfl
      cases short
    · split
      · exact ⟨backslash,_,rfl,by decide⟩
      · exact ⟨backslash,_,rfl,by decide⟩

-- A text as json writes it
def jsonQuote (text : String) : List Char := quoteMark :: (text.toList.flatMap escapeChar ++ [quoteMark])

theorem jsonQuote_free : PrefixFree jsonQuote := by
  intro one two first second same
  obtain ⟨texts,rests⟩ := prefixFree_until escapeChar_free escapeChar_begins one.toList two.toList first second (List.cons.inj same).2
  exact ⟨String.toList_inj.mp texts,rests⟩

-- A text or null
def jsonOptional : Option String → List Char
  | none => "null".toList
  | some text => jsonQuote text

theorem jsonOptional_free : PrefixFree jsonOptional := by
  intro one two first second same
  cases one with
  | none =>
    cases two with
    | none => exact ⟨rfl,List.append_cancel_left same⟩
    | some text => exact absurd (List.cons.inj same).1 (by decide)
  | some text =>
    cases two with
    | none => exact absurd (List.cons.inj same).1 (by decide)
    | some other =>
      obtain ⟨rfl,rests⟩ := jsonQuote_free _ _ _ _ same
      exact ⟨rfl,rests⟩

end strings

section containers
variable {α : Type}

def jsonRest (write : α → List Char) : List α → List Char
  | [] => [']']
  | value :: rest => ',' :: ' ' :: (write value ++ jsonRest write rest)

-- A list as json writes it
def jsonList (write : α → List Char) : List α → List Char
  | [] => ['[',']']
  | value :: rest => '[' :: (write value ++ jsonRest write rest)

theorem jsonRest_free {write : α → List Char} (free : PrefixFree write) : PrefixFree (jsonRest write) := by
  intro one two first second same
  induction one generalizing two with
  | nil =>
    cases two with
    | nil => exact ⟨rfl,(List.cons.inj same).2⟩
    | cons other others => exact absurd (List.cons.inj same).1 (by decide)
  | cons value rest ih =>
    cases two with
    | nil => exact absurd (List.cons.inj same).1 (by decide)
    | cons other others =>
      have behind : (write value ++ jsonRest write rest) ++ first = (write other ++ jsonRest write others) ++ second :=
        (List.cons.inj (List.cons.inj same).2).2
      rw [List.append_assoc,List.append_assoc] at behind
      obtain ⟨rfl,left⟩ := free _ _ _ _ behind
      obtain ⟨rfl,ends⟩ := ih others left
      exact ⟨rfl,ends⟩

theorem jsonList_free {write : α → List Char} (free : PrefixFree write) (begins : ∀ value, ∃ head rest, write value = head :: rest ∧ head ≠ ']') :
    PrefixFree (jsonList write) := by
  intro one two first second same
  have apart : ∀ {value rest left right}, ']' :: left ≠ write value ++ jsonRest write rest ++ right := by
    intro value rest left right equal
    obtain ⟨head,others,starts,unlike⟩ := begins value
    rw [starts] at equal
    exact unlike (List.cons.inj equal).1.symm
  cases one with
  | nil =>
    cases two with
    | nil => exact ⟨rfl,List.append_cancel_left same⟩
    | cons other others => exact absurd (List.cons.inj same).2 apart
  | cons value rest =>
    cases two with
    | nil => exact absurd (List.cons.inj same).2.symm apart
    | cons other others =>
      have behind : (write value ++ jsonRest write rest) ++ first = (write other ++ jsonRest write others) ++ second := (List.cons.inj same).2
      rw [List.append_assoc,List.append_assoc] at behind
      obtain ⟨rfl,left⟩ := free _ _ _ _ behind
      obtain ⟨rfl,ends⟩ := jsonRest_free free _ _ _ _ left
      exact ⟨rfl,ends⟩

-- One entry of an object, behind what stands in front of it
def jsonEntry (lead name : String) (value : List Char) : List Char := lead.toList ++ (jsonQuote name ++ (':' :: ' ' :: value))

theorem jsonEntry_free {write : α → List Char} (free : PrefixFree write) {lead name : String} {one two : α} {first second : List Char}
    (same : jsonEntry lead name (write one) ++ first = jsonEntry lead name (write two) ++ second) : one = two ∧ first = second := by
  unfold jsonEntry at same
  simp only [List.append_assoc] at same
  have values := List.append_cancel_left (List.append_cancel_left same)
  exact free _ _ _ _ (List.cons.inj (List.cons.inj values).2).2

end containers

section sorting
variable {α : Type}

def textAtMost (write : α → List Char) (one two : α) : Prop := write one ≤ write two

instance (write : α → List Char) : DecidableRel (textAtMost write) := fun one two => inferInstanceAs (Decidable (write one ≤ write two))

instance (write : α → List Char) : Std.Total (textAtMost write) := ⟨fun one two => le_total (write one) (write two)⟩

instance (write : α → List Char) : IsTrans α (textAtMost write) := ⟨fun _ _ _ => le_trans⟩

-- `sorted(records, key=...)` where the key is the text of the record
def sortedByText (write : α → List Char) (records : List α) : List α := records.insertionSort (textAtMost write)

-- Where no two records have one text, the order they come in does not matter.
theorem sortedByText_perm {write : α → List Char} (apart : Function.Injective write) {one two : List α} :
    sortedByText write one = sortedByText write two ↔ one.Perm two := by
  have first := List.perm_insertionSort (textAtMost write) one
  have second := List.perm_insertionSort (textAtMost write) two
  constructor
  · intro same
    exact first.symm.trans ((List.Perm.of_eq same).trans second)
  · intro perm
    exact (first.trans (perm.trans second.symm)).eq_of_pairwise (fun _ _ _ _ below above => apart (le_antisymm below above))
      (List.pairwise_insertionSort _ one) (List.pairwise_insertionSort _ two)

end sorting

end LongBridge
