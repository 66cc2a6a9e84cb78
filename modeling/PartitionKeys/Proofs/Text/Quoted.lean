import Mathlib.Data.Nat.Digits.Lemmas
import PartitionKeys.Proofs.Text.Cuts
import PartitionKeys.Text.Digit
import PartitionKeys.Text.Quoted

/-!
# Quoted — reading a quoted text back

What a character is written as can be read off again, whatever follows and whichever quote is in
use.  So a quoted text determines the text; and since a quote only ever ends what one character is
written as, a quoted text inside another one is that of a shorter text.

* `Digit.number_hex`: hexadecimal digits write their number;
* `Quoted.readOne_escape`: a character is read back from what it is written as;
* `Quoted.encode_injective`: different texts are quoted differently;
* `Quoted.length_lt_of_within`: a quoted text inside another one is that of a shorter text;
* `Quoted.ascii_text`: quoting with characters beyond ASCII by their codes is a quoting as well.
-/

namespace PartitionKeys

/-! ## Hexadecimal digits -/

namespace Digit

theorem hex?_digitChar : ∀ d < 16, hex? d.digitChar = some d := by
  decide

theorem number_append (cs : List Char) (c : Char) :
    number 16 (cs ++ [c]) = 16 * number 16 cs + (hex? c).getD 0 := by
  simp [number, List.foldl_append]

theorem number_leading_zeros (k : Nat) (cs : List Char) :
    number 16 (List.replicate k '0' ++ cs) = number 16 cs := by
  induction k with
  | zero => rfl
  | succ k ih => exact ih

theorem number_toDigits (n : Nat) : number 16 (Nat.toDigits 16 n) = n := by
  induction n using Nat.strongRecOn with
  | ind n ih =>
      rw [Nat.toDigits_eq_if (by decide)]
      by_cases hn : n < 16
      · simp [hn, number, hex?_digitChar n hn]
      · have hdigit : hex? (n % 16).digitChar = some (n % 16) := hex?_digitChar _ (by omega)
        rw [if_neg hn, number_append, ih (n / 16) (by omega), hdigit, Option.getD_some]
        exact Nat.div_add_mod n 16

theorem number_hex (width n : Nat) : number 16 (Quoted.hex width n) = n := by
  unfold Quoted.hex
  rw [number_leading_zeros, number_toDigits]

end Digit

namespace Quoted

variable {quote quote' c : Char} {plain : Char → Bool} {s s' : String}

theorem length_hex {width n : Nat} (hw : 0 < width) (hn : n < 16 ^ width) :
    (hex width n).length = width := by
  have hlen : (Nat.toDigits 16 n).length ≤ width := (Nat.length_toDigits_le_iff (by decide) hw).2 hn
  simp only [hex, List.length_append, List.length_replicate]
  omega

theorem exists_digit_of_mem_toDigits {n : Nat} (hc : c ∈ Nat.toDigits 16 n) :
    ∃ d < 16, d.digitChar = c := by
  induction n using Nat.strongRecOn with
  | ind n ih =>
      rw [Nat.toDigits_eq_if (by decide)] at hc
      by_cases hn : n < 16
      · rw [if_pos hn, List.mem_singleton] at hc
        exact ⟨n, hn, hc.symm⟩
      · rw [if_neg hn, List.mem_append, List.mem_singleton] at hc
        rcases hc with hc | hc
        · exact ih (n / 16) (by omega) hc
        · exact ⟨n % 16, by omega, hc.symm⟩

theorem exists_digit_of_mem_hex {width n : Nat} (hc : c ∈ hex width n) :
    ∃ d < 16, d.digitChar = c := by
  rw [hex, List.mem_append] at hc
  rcases hc with hc | hc
  · exact ⟨0, by decide, (List.eq_of_mem_replicate hc).symm⟩
  · exact exists_digit_of_mem_toDigits hc

/-! ## Escapes -/

def IsQuote (c : Char) : Prop :=
  c = apostrophe ∨ c = doubleQuote

theorem isQuote_quoteFor (cs : List Char) : IsQuote (quoteFor cs) := by
  unfold quoteFor
  split
  · exact Or.inr rfl
  · exact Or.inl rfl

theorem mem_codeEscape {n : Nat} (hc : c ∈ codeEscape n) :
    c = backslash ∨ c ∈ ['x', 'u', 'U'] ∨ ∃ d < 16, d.digitChar = c := by
  have hparts : ∀ {mark : Char} {width : Nat}, mark ∈ ['x', 'u', 'U'] →
      c ∈ backslash :: mark :: hex width n →
        c = backslash ∨ c ∈ ['x', 'u', 'U'] ∨ ∃ d < 16, d.digitChar = c := by
    intro mark width hmark hc
    rcases List.mem_cons.1 hc with rfl | hc
    · exact Or.inl rfl
    · rcases List.mem_cons.1 hc with rfl | hc
      · exact Or.inr (Or.inl hmark)
      · exact Or.inr (Or.inr (exists_digit_of_mem_hex hc))
  unfold codeEscape at hc
  split at hc
  · exact hparts (by decide) hc
  · split at hc
    · exact hparts (by decide) hc
    · exact hparts (by decide) hc

/-- Codes are written in ASCII, and without quotes. -/
theorem ascii_of_mem_codeEscape {n : Nat} (hc : c ∈ codeEscape n) :
    c.toNat < 0x80 ∧ ¬IsQuote c := by
  have hdigits : ∀ d < 16, d.digitChar.toNat < 0x80 ∧ d.digitChar ≠ apostrophe ∧
      d.digitChar ≠ doubleQuote := by
    decide
  rcases mem_codeEscape hc with rfl | hmark | ⟨d, hd, rfl⟩
  · exact ⟨by decide, by simp [IsQuote, backslash, apostrophe, doubleQuote]⟩
  · simp only [List.mem_cons, List.not_mem_nil, or_false] at hmark
    rcases hmark with rfl | rfl | rfl
    · exact ⟨by decide, by simp [IsQuote, apostrophe, doubleQuote]⟩
    · exact ⟨by decide, by simp [IsQuote, apostrophe, doubleQuote]⟩
    · exact ⟨by decide, by simp [IsQuote, apostrophe, doubleQuote]⟩
  · rcases hdigits d hd with ⟨hlt, hap, hdq⟩
    exact ⟨hlt, fun hq => hq.elim hap hdq⟩

/-- A character is written with a backslash, as itself, or by its code. -/
theorem escape_cases (quote : Char) (plain : Char → Bool) (c : Char) :
    (∃ d, escape quote plain c = [backslash, d] ∧
      (d = c ∧ (c = quote ∨ c = backslash) ∨ c = '\n' ∧ d = 'n' ∨ c = '\r' ∧ d = 'r' ∨
        c = '\t' ∧ d = 't')) ∨
    (c ≠ backslash ∧ escape quote plain c = [c]) ∨
    escape quote plain c = codeEscape c.toNat := by
  unfold escape
  split
  · rename_i hc
    exact Or.inl ⟨c, rfl, Or.inl ⟨rfl, hc⟩⟩
  · rename_i hc
    split
    · rename_i hn
      exact Or.inl ⟨'n', rfl, Or.inr (Or.inl ⟨hn, rfl⟩)⟩
    · split
      · rename_i hr
        exact Or.inl ⟨'r', rfl, Or.inr (Or.inr (Or.inl ⟨hr, rfl⟩))⟩
      · split
        · rename_i ht
          exact Or.inl ⟨'t', rfl, Or.inr (Or.inr (Or.inr ⟨ht, rfl⟩))⟩
        · split
          · exact Or.inr (Or.inl ⟨fun hb => hc (Or.inr hb), rfl⟩)
          · exact Or.inr (Or.inr rfl)

theorem escape_ne_nil (quote : Char) (plain : Char → Bool) (c : Char) :
    escape quote plain c ≠ [] := by
  rcases escape_cases quote plain c with ⟨d, heq, _⟩ | ⟨_, heq⟩ | heq
  · simp [heq]
  · simp [heq]
  · rw [heq, codeEscape]
    split
    · simp
    · split
      · simp
      · simp

/-! ## Reading back -/

def readCode (width : Nat) (cs : List Char) : Char × List Char :=
  (Char.ofNat (Digit.number 16 (cs.take width)), cs.drop width)

/-- What a backslash begins: a line break or tab by its letter, a code, or the character itself. -/
def readEscape : List Char → Char × List Char
  | [] => (backslash, [])
  | 'n' :: rest => ('\n', rest)
  | 'r' :: rest => ('\r', rest)
  | 't' :: rest => ('\t', rest)
  | 'x' :: rest => readCode 2 rest
  | 'u' :: rest => readCode 4 rest
  | 'U' :: rest => readCode 8 rest
  | c :: rest => (c, rest)

/-- The first character that is written, and what is left. -/
def readOne : List Char → Char × List Char
  | [] => (backslash, [])
  | c :: rest => if c = backslash then readEscape rest else (c, rest)

theorem readCode_hex {width : Nat} (hw : 0 < width) (hc : c.toNat < 16 ^ width)
    (rest : List Char) : readCode width (hex width c.toNat ++ rest) = (c, rest) := by
  have hlen : (hex width c.toNat).length = width := length_hex hw hc
  have htake : (hex width c.toNat ++ rest).take width = hex width c.toNat := by
    rw [List.take_append_of_le_length (by omega), List.take_of_length_le (by omega)]
  have hdrop : (hex width c.toNat ++ rest).drop width = rest := by
    rw [List.drop_append_of_le_length (by omega), List.drop_of_length_le (by omega)]
    rfl
  rw [readCode, htake, hdrop, Digit.number_hex, Char.ofNat_toNat]

theorem readOne_codeEscape (c : Char) (rest : List Char) :
    readOne (codeEscape c.toNat ++ rest) = (c, rest) := by
  have hmax : c.toNat < 0x110000 := by
    have hvalid := c.valid
    simp only [UInt32.isValidChar, Nat.isValidChar] at hvalid
    simp only [Char.toNat]
    omega
  unfold codeEscape
  split
  · exact readCode_hex (by decide) (by omega) rest
  · split
    · exact readCode_hex (by decide) (by omega) rest
    · exact readCode_hex (by decide) (by omega) rest

theorem readOne_escape (hq : IsQuote quote) (c : Char) (rest : List Char) :
    readOne (escape quote plain c ++ rest) = (c, rest) := by
  rcases escape_cases quote plain c with ⟨d, heq, hd⟩ | ⟨hne, heq⟩ | heq
  · rw [heq]
    show readEscape (d :: rest) = (c, rest)
    rcases hd with ⟨rfl, rfl | rfl⟩ | ⟨rfl, rfl⟩ | ⟨rfl, rfl⟩ | ⟨rfl, rfl⟩
    · rcases hq with rfl | rfl
      · rfl
      · rfl
    · rfl
    · rfl
    · rfl
    · rfl
  · rw [heq]
    exact if_neg hne
  · rw [heq]
    exact readOne_codeEscape c rest

/-- A text before a quote is read off a quoted text character by character. -/
theorem exists_more_of_flatMap_escape (hq : IsQuote quote) (hq' : IsQuote quote')
    {cs cs' after : List Char}
    (h : cs.flatMap (escape quote plain) ++ quote :: after =
      cs'.flatMap (escape quote' plain) ++ [quote']) :
    ∃ more, cs' = cs ++ more ∧
      quote :: after = more.flatMap (escape quote' plain) ++ [quote'] := by
  induction cs generalizing cs' with
  | nil =>
      exact ⟨cs', rfl, h⟩
  | cons c cs ih =>
      rw [List.flatMap_cons, List.append_assoc] at h
      cases cs' with
      | nil =>
          -- The closing quote alone is too short.
          have hpos : 0 < (escape quote plain c).length :=
            List.length_pos_iff.2 (escape_ne_nil quote plain c)
          have hlen := congrArg List.length h
          simp only [List.flatMap_nil, List.length_append, List.length_cons, List.length_nil]
            at hlen
          omega
      | cons c' cs' =>
          rw [List.flatMap_cons, List.append_assoc] at h
          have hread := congrArg readOne h
          rw [readOne_escape hq, readOne_escape hq', Prod.mk.injEq] at hread
          rcases hread with ⟨rfl, hrest⟩
          rcases ih hrest with ⟨more, rfl, hmore⟩
          exact ⟨more, rfl, hmore⟩

/-- A quote can only be the last of what a character is written as. -/
theorem eq_nil_of_escape_eq (hq : IsQuote quote) {before after : List Char}
    (h : escape quote' plain c = before ++ quote :: after) : after = [] := by
  rcases escape_cases quote' plain c with ⟨d, heq, _⟩ | ⟨_, heq⟩ | heq
  · -- A backslash is not a quote, so the quote is the second of the two.
    rw [heq] at h
    cases before with
    | nil =>
        have hback : backslash = quote := (List.cons.inj h).1
        rcases hq with rfl | rfl
        · exact absurd hback (by decide)
        · exact absurd hback (by decide)
    | cons x before =>
        have hlen := congrArg List.length h
        simp only [List.length_cons, List.length_nil, List.length_append] at hlen
        exact List.length_eq_zero_iff.1 (by omega)
  · have hlen := congrArg List.length (heq.symm.trans h)
    simp only [List.length_cons, List.length_nil, List.length_append] at hlen
    exact List.length_eq_zero_iff.1 (by omega)
  · -- No quote occurs in a code.
    have hmem : quote ∈ codeEscape c.toNat := by
      rw [← heq, h]
      exact List.mem_append_right before List.mem_cons_self
    exact absurd hq (ascii_of_mem_codeEscape hmem).2

/-- After a quote inside a quoted text come the characters after one of the text. -/
theorem exists_back_of_flatMap_escape (hq : IsQuote quote) {cs before after : List Char}
    (h : before ++ quote :: after = cs.flatMap (escape quote' plain) ++ [quote'])
    (hne : after ≠ []) :
    ∃ front c back, cs = front ++ c :: back ∧
      after = back.flatMap (escape quote' plain) ++ [quote'] := by
  induction cs generalizing before with
  | nil =>
      have hlen := congrArg List.length h
      simp only [List.flatMap_nil, List.length_append, List.length_cons, List.length_nil] at hlen
      exact absurd (List.length_eq_zero_iff.1 (by omega)) hne
  | cons c cs ih =>
      rw [List.flatMap_cons, List.append_assoc] at h
      rcases List.append_eq_append_iff.1 h with ⟨extra, hextra, hrest⟩ | ⟨extra, hextra, hrest⟩
      · cases extra with
        | nil =>
            have hnext : [] ++ quote :: after = cs.flatMap (escape quote' plain) ++ [quote'] := hrest
            rcases ih hnext with ⟨front, d, back, rfl, hafter⟩
            exact ⟨c :: front, d, back, rfl, hafter⟩
        | cons x extra =>
            -- The quote belongs to what `c` is written as, and ends it.
            rw [List.cons_append, List.cons.injEq] at hrest
            rcases hrest with ⟨rfl, hrest⟩
            rw [eq_nil_of_escape_eq hq hextra, List.nil_append] at hrest
            exact ⟨[], c, cs, rfl, hrest⟩
      · rcases ih hrest.symm with ⟨front, d, back, rfl, hafter⟩
        exact ⟨c :: front, d, back, rfl, hafter⟩

/-! ## Quoted texts -/

theorem toList_encode (plain : Char → Bool) (s : String) :
    (encode plain s).toList =
      quoteFor s.toList :: s.toList.flatMap (escape (quoteFor s.toList) plain) ++
        [quoteFor s.toList] := by
  simp [encode]

theorem eq_nil_of_append_eq_singleton {cs : List Char}
    (h : [quote] = cs.flatMap (escape quote' plain) ++ [quote']) : cs = [] := by
  cases cs with
  | nil => rfl
  | cons c cs =>
      have hpos : 0 < (escape quote' plain c).length :=
        List.length_pos_iff.2 (escape_ne_nil quote' plain c)
      have hlen := congrArg List.length h
      simp only [List.flatMap_cons, List.length_append, List.length_cons, List.length_nil] at hlen
      omega

theorem encode_injective (plain : Char → Bool) : Function.Injective (encode plain) := by
  intro s s' h
  have hlists := congrArg String.toList h
  rw [toList_encode, toList_encode, List.cons_append, List.cons_append, List.cons.injEq] at hlists
  rcases exists_more_of_flatMap_escape (isQuote_quoteFor _) (isQuote_quoteFor _) hlists.2 with
    ⟨more, hmore, hend⟩
  rw [eq_nil_of_append_eq_singleton hend, List.append_nil] at hmore
  exact String.toList_inj.1 hmore.symm

theorem length_lt_of_within (h : Within (encode plain s).toList (encode plain s').toList) :
    s.length < s'.length := by
  rcases h with ⟨⟨before, after, hsplit⟩, hshort⟩
  have hq := isQuote_quoteFor s.toList
  have hq' := isQuote_quoteFor s'.toList
  rw [toList_encode] at hsplit hshort
  rw [toList_encode plain s'] at hsplit hshort
  rw [← String.length_toList, ← String.length_toList]
  cases before with
  | nil =>
      -- Both begin at the same quote, and the second goes on.
      simp only [List.nil_append, List.cons_append, List.append_assoc, List.cons.injEq] at hsplit
      rcases exists_more_of_flatMap_escape hq hq' hsplit.2 with ⟨more, hmore, _⟩
      cases more with
      | nil =>
          have hsame : s'.toList = s.toList := by
            simpa using hmore
          rw [hsame] at hshort
          exact absurd hshort (Nat.lt_irrefl _)
      | cons c more =>
          rw [hmore, List.length_append, List.length_cons]
          omega
  | cons x before =>
      -- The first begins at a quote within the second, and so at the end of a character there.
      simp only [List.cons_append, List.append_assoc, List.cons.injEq] at hsplit
      rcases exists_back_of_flatMap_escape hq hsplit.2 (by simp) with
        ⟨front, c, back, hcs, hback⟩
      rcases exists_more_of_flatMap_escape hq hq' hback with ⟨more, rfl, _⟩
      rw [hcs]
      simp only [List.length_append, List.length_cons]
      omega

/-! ## Quoted texts in ASCII -/

def writeAscii (c : Char) : List Char :=
  if c.toNat < 0x80 then [c] else codeEscape c.toNat

def printableAscii (c : Char) : Bool :=
  CharSet.printable.contains c && decide (c.toNat < 0x80)

theorem flatMap_writeAscii {cs : List Char} (hcs : ∀ c ∈ cs, c.toNat < 0x80) :
    cs.flatMap writeAscii = cs := by
  induction cs with
  | nil =>
      rfl
  | cons c cs ih =>
      have hc : writeAscii c = [c] := if_pos (hcs c List.mem_cons_self)
      rw [List.flatMap_cons, hc, ih fun d hd => hcs d (List.mem_cons_of_mem c hd)]
      rfl

theorem IsQuote.lt (hq : IsQuote quote) : quote.toNat < 0x80 := by
  rcases hq with rfl | rfl
  · decide
  · decide

theorem flatMap_writeAscii_pair (hc : c.toNat < 0x80) :
    [backslash, c].flatMap writeAscii = [backslash, c] := by
  apply flatMap_writeAscii
  rw [List.forall_mem_cons, List.forall_mem_singleton]
  exact ⟨by decide, hc⟩

theorem flatMap_writeAscii_escape (hq : IsQuote quote) (c : Char) :
    (escape quote CharSet.printable.contains c).flatMap writeAscii =
      escape quote printableAscii c := by
  unfold escape
  split
  · rename_i hc
    apply flatMap_writeAscii_pair
    rcases hc with rfl | rfl
    · exact hq.lt
    · decide
  · split
    · exact flatMap_writeAscii_pair (by decide)
    · split
      · exact flatMap_writeAscii_pair (by decide)
      · split
        · exact flatMap_writeAscii_pair (by decide)
        · by_cases hplain : CharSet.printable.contains c = true
          · by_cases hascii : c.toNat < 0x80
            · simp [hplain, hascii, writeAscii, printableAscii]
            · simp [hplain, hascii, writeAscii, printableAscii]
          · -- What is written by its code already is left alone.
            simp only [hplain, printableAscii, Bool.false_and]
            exact flatMap_writeAscii fun d hd => (ascii_of_mem_codeEscape hd).1

theorem ascii_text (s : String) : ascii (text s) = encode printableAscii s := by
  have hq := isQuote_quoteFor s.toList
  have hquote : [quoteFor s.toList].flatMap writeAscii = [quoteFor s.toList] := by
    apply flatMap_writeAscii
    rw [List.forall_mem_singleton]
    exact hq.lt
  apply String.toList_inj.1
  calc (ascii (text s)).toList
      = (text s).toList.flatMap writeAscii := String.toList_ofList
    _ = [quoteFor s.toList].flatMap writeAscii ++
          (s.toList.flatMap (escape (quoteFor s.toList) CharSet.printable.contains)).flatMap
            writeAscii ++ [quoteFor s.toList].flatMap writeAscii := by
        rw [text, toList_encode]
        simp only [List.flatMap_append, List.flatMap_cons, List.flatMap_nil, List.append_nil]
    _ = (encode printableAscii s).toList := by
        simp only [hquote, List.flatMap_assoc, flatMap_writeAscii_escape hq, toList_encode]
        rfl

end Quoted
end PartitionKeys
