import Mathlib.Data.List.Forall2
import PartitionKeys.Proofs.Text.Quoted
import PartitionKeys.Value.Json

/-!
# Json — what is printed is read back

A printed value is read as the tokens it consists of, and those are folded into the value again.
Each part of a printed value ends before a space or a mark, so what has been read of it does not
depend on what follows.

* `Json.Plain`: values without numbers and without repeated keys;
* `Json.ReadsAs`: characters that are scanned as tokens, whatever came before and comes next;
* `Json.Means`: tokens that are folded as a value, wherever a value may stand;
* `Json.Plain.read?_indented`: a printed value is read back.
-/

namespace PartitionKeys
namespace Json

variable {c : Char} {cs cs' : List Char} {t : Token} {ts ts' : List Token} {v : Value}

inductive Plain : Value → Prop where
  | null : Plain .null
  | bool (b : Bool) : Plain (.bool b)
  | text (s : String) : Plain (.text s)
  | list {items : List Value} (hitems : ∀ v ∈ items, Plain v) : Plain (.list items)
  | record {fields : Fields} (hkeys : (fields.map (·.1)).Nodup)
      (hfields : ∀ f ∈ fields, Plain f.2) : Plain (.record fields)

/-! ## Scanning -/

/-- A space or a mark, as it stands after a word. -/
def IsEnd (c : Char) : Prop :=
  isSpace c = true ∨ (punctuation? c).isSome

def ReadsAs (cs : List Char) (ts : List Token) : Prop :=
  ∀ (done : List Token) (c : Char) (rest : List Char), IsEnd c →
    scan { done } (cs ++ c :: rest) = scan { done := ts.reverse ++ done } (c :: rest)

theorem toList_newline (depth : Nat) :
    (newline depth).toList = '\n' :: List.replicate (2 * depth) ' ' := by
  simp [newline]

theorem scan_cons {s next : Scan} (h : s.step c = some next) (rest : List Char) :
    scan s (c :: rest) = scan next rest := by
  rw [scan, h]

namespace ReadsAs

theorem nil : ReadsAs [] [] := by
  intro done c rest _
  rfl

/-- Two parts are read one after the other when the second begins with an end of the first. -/
theorem append (h : ReadsAs cs ts) (hc : IsEnd c) (h' : ReadsAs (c :: cs') ts') :
    ReadsAs (cs ++ c :: cs') (ts ++ ts') := by
  intro done d rest hd
  rw [List.append_assoc, List.cons_append, h done c (cs' ++ d :: rest) hc, ← List.cons_append,
    h' (ts.reverse ++ done) d rest hd, List.reverse_append, List.append_assoc]

theorem space (hc : isSpace c = true) (h : ReadsAs cs ts) : ReadsAs (c :: cs) ts := by
  have hstep : ∀ done, Scan.step { done } c = some { done } := fun done => if_pos hc
  intro done d rest hd
  rw [List.cons_append, scan_cons (hstep done), h done d rest hd]

theorem spaces (n : Nat) (h : ReadsAs cs ts) : ReadsAs (List.replicate n ' ' ++ cs) ts := by
  induction n with
  | zero =>
      exact h
  | succ n ih =>
      exact space rfl ih

theorem newline (depth : Nat) (h : ReadsAs cs ts) :
    ReadsAs ((newline depth).toList ++ cs) ts := by
  rw [toList_newline]
  exact space rfl (spaces _ h)

theorem punctuation (hc : punctuation? c = some t) (h : ReadsAs cs ts) :
    ReadsAs (c :: cs) (t :: ts) := by
  have hspace : isSpace c = false := by
    cases hs : isSpace c with
    | false => rfl
    | true =>
        simp only [isSpace, Bool.or_eq_true, beq_iff_eq] at hs
        rcases hs with ((rfl | rfl) | rfl) | rfl
        all_goals exact absurd hc (by simp [punctuation?])
  have hquote : c ≠ Quoted.doubleQuote := by
    rintro rfl
    exact absurd hc (by simp [punctuation?, Quoted.doubleQuote])
  have hstep : ∀ done, Scan.step { done } c = some { done := t :: done } := by
    intro done
    rw [Scan.step, Scan.between, hspace, if_neg Bool.false_ne_true, if_neg hquote, hc]
  intro done d rest hd
  rw [List.cons_append, scan_cons (hstep done), h (t :: done) d rest hd, List.reverse_cons,
    List.append_assoc]
  rfl

/-- What is collected of a word grows at its head. -/
theorem scan_word {ds : List Char} (hds : ∀ d ∈ ds, ¬IsEnd d) (taken rest : List Char)
    (done : List Token) :
    scan { mode := .word taken, done } (ds ++ rest) =
      scan { mode := .word (ds.reverse ++ taken), done } rest := by
  induction ds generalizing taken with
  | nil =>
      rfl
  | cons d ds ih =>
      have hd : ¬(isSpace d || (punctuation? d).isSome) = true := by
        rw [Bool.or_eq_true_iff]
        exact hds d List.mem_cons_self
      have hstep : Scan.step { mode := .word taken, done } d =
          some { mode := .word (d :: taken), done } := if_neg hd
      rw [List.cons_append, scan_cons hstep, ih (fun e he => hds e (List.mem_cons_of_mem d he)),
        List.reverse_cons, List.append_assoc]
      rfl

/-- A word ends where the next part begins. -/
theorem word (hfirst : ∀ done, Scan.step { done } c = some { mode := .word [c], done })
    (hcs : ∀ d ∈ cs, ¬IsEnd d) (ht : word? (c :: cs).reverse = some t) : ReadsAs (c :: cs) [t] := by
  intro done d rest hd
  rw [List.reverse_cons] at ht
  have hend : (isSpace d || (punctuation? d).isSome) = true := Bool.or_eq_true_iff.2 hd
  -- What ends a word is read as if it stood between words.
  have hstep : Scan.step { mode := .word (cs.reverse ++ [c]), done } d =
      Scan.step { done := t :: done } d := by
    show (if _ then _ else _) = _
    rw [if_pos hend, ht]
    rfl
  rw [List.cons_append, scan_cons (hfirst done), scan_word hcs, scan, hstep]
  rfl

end ReadsAs

theorem readsAs_null : ReadsAs "null".toList [.scalar .null] := by
  have hletters : ∀ d ∈ ['u', 'l', 'l'], ¬IsEnd d := by
    simp [IsEnd, isSpace, punctuation?]
  exact ReadsAs.word (fun _ => rfl) hletters rfl

theorem readsAs_bool (b : Bool) : ReadsAs (scalarText (.bool b)).toList [.scalar (.bool b)] := by
  cases b with
  | false =>
      have hletters : ∀ d ∈ ['a', 'l', 's', 'e'], ¬IsEnd d := by
        simp [IsEnd, isSpace, punctuation?]
      exact ReadsAs.word (fun _ => rfl) hletters rfl
  | true =>
      have hletters : ∀ d ∈ ['r', 'u', 'e'], ¬IsEnd d := by
        simp [IsEnd, isSpace, punctuation?]
      exact ReadsAs.word (fun _ => rfl) hletters rfl

theorem readsAs_emptyList : ReadsAs "[]".toList [.openList, .closeList] := by
  show ReadsAs ['[', ']'] _
  exact (ReadsAs.nil.punctuation rfl).punctuation rfl

theorem readsAs_emptyRecord : ReadsAs "\x7b\x7d".toList [.openRecord, .closeRecord] := by
  show ReadsAs ['{', '}'] _
  exact (ReadsAs.nil.punctuation rfl).punctuation rfl

/-! ## Texts -/

theorem hex_four_of_control :
    ∀ n < 0x20, Quoted.hex 4 n = ['0', '0', (n / 16).digitChar, (n % 16).digitChar] := by
  decide

theorem scan_digit {d n left : Nat} (hd : d < 16) (hleft : 1 < left) (taken rest : List Char)
    (done : List Token) :
    scan { mode := .coded taken left n, done } (d.digitChar :: rest) =
      scan { mode := .coded taken (left - 1) (16 * n + d), done } rest := by
  apply scan_cons
  unfold Scan.step
  simp only [Digit.hex?_digitChar d hd]
  exact if_neg (by omega)

theorem scan_lastDigit {d n : Nat} (hd : d < 16) (hn : 16 * n + d < 0xd800)
    (taken rest : List Char) (done : List Token) :
    scan { mode := .coded taken 1 n, done } (d.digitChar :: rest) =
      scan { mode := .quoted (Char.ofNat (16 * n + d) :: taken), done } rest := by
  have hjoin : joinCode none (16 * n + d) = (none, [Char.ofNat (16 * n + d)]) := by
    rw [joinCode, if_neg (by omega), if_neg (by omega)]
  apply scan_cons
  unfold Scan.step
  simp only [Digit.hex?_digitChar d hd, hjoin]
  rfl

theorem scan_control (hc : c.toNat < 0x20) (taken rest : List Char) (done : List Token) :
    scan { mode := .coded taken 4 0, done } (Quoted.hex 4 c.toNat ++ rest) =
      scan { mode := .quoted (c :: taken), done } rest := by
  have hcode : 16 * (16 * (16 * (16 * 0 + 0) + 0) + c.toNat / 16) + c.toNat % 16 = c.toNat := by
    omega
  rw [hex_four_of_control c.toNat hc]
  show scan _ (Nat.digitChar 0 :: Nat.digitChar 0 :: (c.toNat / 16).digitChar ::
    (c.toNat % 16).digitChar :: rest) = _
  rw [scan_digit (by decide) (by decide), scan_digit (by decide) (by decide),
    scan_digit (by omega) (by decide), scan_lastDigit (by omega) (by omega), hcode,
    Char.ofNat_toNat]

theorem scan_escapeChar (c : Char) (taken rest : List Char) (done : List Token) :
    scan { mode := .quoted taken, done } (escapeChar c ++ rest) =
      scan { mode := .quoted (c :: taken), done } rest := by
  have hcode : ∀ {n : Nat}, c.toNat = n → c = Char.ofNat n := by
    rintro n rfl
    exact (Char.ofNat_toNat c).symm
  -- The quote and the backslash are marked as they are, five controls by a letter, the other
  -- controls by their code; the rest is printed as it is.
  unfold escapeChar
  split
  · rename_i hc
    rcases hc with rfl | rfl
    · rfl
    · rfl
  · rename_i hc
    split
    · rename_i hn
      subst hn
      rfl
    · split
      · rename_i hr
        subst hr
        rfl
      · split
        · rename_i ht
          subst ht
          rfl
        · split
          · rename_i hb
            rw [hcode hb]
            rfl
          · split
            · rename_i hf
              rw [hcode hf]
              rfl
            · split
              · rename_i hlow
                exact scan_control hlow taken rest done
              · rw [not_or] at hc
                simp only [List.cons_append, List.nil_append, scan, Scan.step, if_neg hc.1,
                  if_neg hc.2]

theorem scan_flatMap_escapeChar (ds taken rest : List Char) (done : List Token) :
    scan { mode := .quoted taken, done } (ds.flatMap escapeChar ++ rest) =
      scan { mode := .quoted (ds.reverse ++ taken), done } rest := by
  induction ds generalizing taken with
  | nil =>
      rfl
  | cons d ds ih =>
      rw [List.flatMap_cons, List.append_assoc, scan_escapeChar, ih (d :: taken),
        List.reverse_cons, List.append_assoc]
      rfl

theorem readsAs_quoted (s : String) : ReadsAs (quoted s).toList [.scalar (.text s)] := by
  have hlist : (quoted s).toList =
      Quoted.doubleQuote :: (s.toList.flatMap escapeChar ++ [Quoted.doubleQuote]) := by
    simp [quoted]
  intro done c rest _
  rw [hlist, List.cons_append, List.append_assoc]
  show scan { mode := .quoted [], done } (s.toList.flatMap escapeChar ++ _) = _
  rw [scan_flatMap_escapeChar, List.append_nil]
  show scan { done := .scalar (.text (String.ofList s.toList.reverse.reverse)) :: done }
    (c :: rest) = _
  rw [List.reverse_reverse, String.ofList_toList]
  rfl

/-! ## Entries -/

def separator (depth : Nat) : List Char :=
  ',' :: (newline depth).toList

/-- Entries between their marks, each on a line of its own. -/
theorem readsAs_entries {entries : List (List Char)} {tss : List (List Token)} (depth : Nat)
    (h : List.Forall₂ ReadsAs entries tss) (hne : entries ≠ []) (hclose : punctuation? c = some t) :
    ReadsAs ((separator (depth + 1)).intercalate entries ++ ((newline depth).toList ++ [c]))
      ([Token.comma].intercalate tss ++ [t]) := by
  induction h with
  | nil =>
      exact absurd rfl hne
  | @cons cs ts entries tss hfirst hrest ih =>
      have hend : ReadsAs ((newline depth).toList ++ [c]) [t] :=
        (ReadsAs.nil.punctuation hclose).newline depth
      -- The break before the closing mark ends the last entry, a comma any other.
      cases hrest with
      | nil =>
          rw [toList_newline] at hend ⊢
          simpa using hfirst.append (Or.inl rfl) hend
      | @cons cs' ts' entries tss hsecond hrest =>
          have hmore := ih (List.cons_ne_nil _ _)
          have hcomma : ReadsAs (separator (depth + 1) ++
              ((separator (depth + 1)).intercalate (cs' :: entries) ++
                ((newline depth).toList ++ [c])))
              (Token.comma :: ([Token.comma].intercalate (ts' :: tss) ++ [t])) :=
            (hmore.newline (depth + 1)).punctuation rfl
          rw [List.intercalate_cons_cons, List.intercalate_cons_cons]
          simpa [separator] using hfirst.append (Or.inr rfl) hcomma

theorem toList_block {opening closing : String} {o c : Char} (ho : opening.toList = [o])
    (hc : closing.toList = [c]) (depth : Nat) (entries : List String) :
    (block opening closing depth entries).toList =
      o :: ((newline (depth + 1)).toList ++
        ((separator (depth + 1)).intercalate (entries.map String.toList) ++
          ((newline depth).toList ++ [c]))) := by
  simp [block, String.toList_intercalate, ho, hc, separator]

theorem readsAs_block {opening closing : String} {o c : Char} {topen tclose : Token}
    {entries : List String} {tss : List (List Token)} (depth : Nat) (ho : opening.toList = [o])
    (hc : closing.toList = [c]) (hopen : punctuation? o = some topen)
    (hclose : punctuation? c = some tclose)
    (h : List.Forall₂ (fun e ts => ReadsAs e.toList ts) entries tss) (hne : entries ≠ []) :
    ReadsAs (block opening closing depth entries).toList
      (topen :: ([Token.comma].intercalate tss ++ [tclose])) := by
  have hentries : List.Forall₂ ReadsAs (entries.map String.toList) tss :=
    List.forall₂_map_left_iff.2 h
  rw [toList_block ho hc]
  exact ((readsAs_entries depth hentries (by simpa using hne) hclose).newline
    (depth + 1)).punctuation hopen

/-! ## Folding -/

theorem foldTokens_cons {f g : Fold} {rest : List Token} (h : f.step t = some g) :
    foldTokens f (t :: rest) = foldTokens g rest := by
  rw [foldTokens, h]

/-- A place where a value may stand. -/
def Fold.Awaits (f : Fold) : Prop :=
  f.expect = .value ∨ f.expect = .valueOrClose

def Means (ts : List Token) (v : Value) : Prop :=
  ∀ (f : Fold) (rest : List Token), f.Awaits →
    foldTokens f (ts ++ rest) = (f.finish v).bind (foldTokens · rest)

theorem Fold.finish_expect (f : Fold) (e : Expect) (v : Value) :
    { f with expect := e }.finish v = f.finish v := by
  rcases f with ⟨stack, _, _⟩
  cases stack with
  | nil => rfl
  | cons frame _ => cases frame <;> rfl

theorem Fold.Awaits.step {f : Fold} (hf : f.Awaits) (ht : t ≠ .closeList) :
    f.step t = f.openValue t := by
  unfold Fold.step
  rcases hf with hf | hf
  · rw [hf]
  · rw [hf]
    cases t with
    | closeList => exact absurd rfl ht
    | _ => rfl

theorem foldTokens_eq_bind (f : Fold) (t : Token) (rest : List Token) :
    foldTokens f (t :: rest) = (f.step t).bind (foldTokens · rest) := by
  rw [foldTokens]
  cases f.step t <;> rfl

theorem Means.scalar (v : Value) : Means [.scalar v] v := by
  intro f rest hf
  rw [List.cons_append, foldTokens_eq_bind, hf.step (by simp)]
  rfl

/-- The items after those that are done, up to the end of the list. -/
theorem foldTokens_items {tss : List (List Token)} {items done : List Value} {f : Fold}
    {stack : List Frame} {rest : List Token} (h : List.Forall₂ Means tss items) (hne : items ≠ [])
    (hf : f.Awaits) (hstack : f.stack = .items done :: stack) :
    foldTokens f ([Token.comma].intercalate tss ++ .closeList :: rest) =
      ({ f with stack }.finish (.list (done.reverse ++ items))).bind (foldTokens · rest) := by
  induction h generalizing done f with
  | nil =>
      exact absurd rfl hne
  | @cons ts v tss items hfirst hrest ih =>
      have hfinish : f.finish v =
          some { f with stack := .items (v :: done) :: stack, expect := .separator } := by
        rw [Fold.finish, hstack]
      -- The end of the list follows its last item, a comma any other.
      cases hrest with
      | nil =>
          have hclose : ({ f with stack := .items (v :: done) :: stack, expect := .separator } :
              Fold).step .closeList = { f with stack }.finish (.list (done.reverse ++ [v])) := by
            rw [← Fold.finish_expect { f with stack } .separator, ← List.reverse_cons]
            rfl
          rw [List.intercalate_singleton, hfirst f _ hf, hfinish, Option.bind_some,
            foldTokens_eq_bind, hclose]
      | @cons ts' v' tss items hsecond hrest =>
          rw [List.intercalate_cons_cons, List.append_assoc, List.append_assoc, hfirst f _ hf,
            hfinish, Option.bind_some, List.cons_append, List.nil_append,
            foldTokens_cons (g := { f with stack := .items (v :: done) :: stack, expect := .value })
              rfl,
            ih (List.cons_ne_nil _ _) (Or.inl rfl) rfl, List.reverse_cons, List.append_assoc]
          rfl

theorem Means.list {tss : List (List Token)} {items : List Value}
    (h : List.Forall₂ Means tss items) (hne : items ≠ []) :
    Means (.openList :: ([Token.comma].intercalate tss ++ [.closeList])) (.list items) := by
  intro f rest hf
  rw [List.cons_append, foldTokens_eq_bind, hf.step (by simp), List.append_assoc]
  show foldTokens { f with stack := .items [] :: f.stack, expect := .valueOrClose }
    ([Token.comma].intercalate tss ++ .closeList :: rest) = _
  rw [foldTokens_items h hne (Or.inr rfl) rfl]
  exact congrArg (·.bind (foldTokens · rest)) (Fold.finish_expect f .valueOrClose _)

theorem put_of_notMem {done : Fields} {key : String} (h : key ∉ done.map (·.1)) (v : Value) :
    done.put key v = done ++ [(key, v)] := by
  induction done with
  | nil =>
      rfl
  | cons f done ih =>
      rw [List.map_cons, List.mem_cons, not_or] at h
      rw [Fields.put, if_neg (Ne.symm h.1), ih h.2]
      rfl

/-- Tokens of an entry of a record. -/
def MeansField (ts : List Token) (f : String × Value) : Prop :=
  ∃ tail, ts = .scalar (.text f.1) :: .colon :: tail ∧ Means tail f.2

/-- The entries after those that are done, up to the end of the record. -/
theorem foldTokens_fields {tss : List (List Token)} {fields done : Fields} {f : Fold}
    {stack : List Frame} {rest : List Token} (h : List.Forall₂ MeansField tss fields)
    (hne : fields ≠ []) (hkeys : ((done ++ fields).map (·.1)).Nodup)
    (hf : f.expect = .key ∨ f.expect = .keyOrClose) (hstack : f.stack = .fields done :: stack) :
    foldTokens f ([Token.comma].intercalate tss ++ .closeRecord :: rest) =
      ({ f with stack }.finish (.record (done ++ fields))).bind (foldTokens · rest) := by
  induction h generalizing done f with
  | nil =>
      exact absurd rfl hne
  | @cons ts entry tss fields hfirst hrest ih =>
      rcases hfirst with ⟨tail, rfl, htail⟩
      have hfresh : entry.1 ∉ done.map (·.1) := by
        rw [List.map_append, List.nodup_append'] at hkeys
        exact fun hmem => hkeys.2.2 hmem List.mem_cons_self
      -- A repeated key would have replaced the value before it.
      have hput : done.put entry.1 entry.2 = done ++ [entry] := put_of_notMem hfresh entry.2
      have hkey : f.step (.scalar (.text entry.1)) =
          some { f with stack := .field done entry.1 :: stack, expect := .colon } := by
        unfold Fold.step
        rcases hf with hf | hf
        · rw [hf]
          simp only [Fold.openKey, hstack]
        · rw [hf]
          simp only [Fold.openKey, hstack]
      have hentry : ∀ more, foldTokens f (.scalar (.text entry.1) :: .colon :: tail ++ more) =
          foldTokens { f with stack := .fields (done ++ [entry]) :: stack, expect := .separator }
            more := by
        intro more
        rw [List.cons_append, List.cons_append, foldTokens_cons hkey]
        show foldTokens { f with stack := .field done entry.1 :: stack, expect := .value }
          (tail ++ more) = _
        rw [htail _ more (Or.inl rfl), ← hput]
        rfl
      cases hrest with
      | nil =>
          rw [List.intercalate_singleton, hentry, foldTokens_eq_bind]
          exact congrArg (·.bind (foldTokens · rest))
            (Fold.finish_expect { f with stack } .separator _)
      | @cons ts' entry' tss fields hsecond hrest =>
          rw [← List.singleton_append, ← List.append_assoc] at hkeys
          rw [List.intercalate_cons_cons, List.append_assoc, List.append_assoc, hentry]
          show foldTokens { f with stack := .fields (done ++ [entry]) :: stack, expect := .key }
            ([Token.comma].intercalate (ts' :: tss) ++ .closeRecord :: rest) = _
          rw [ih (List.cons_ne_nil _ _) hkeys (Or.inl rfl) rfl, List.append_assoc]
          exact congrArg (·.bind (foldTokens · rest))
            (Fold.finish_expect { f with stack } .key _)

theorem Means.record {tss : List (List Token)} {fields : Fields}
    (h : List.Forall₂ MeansField tss fields) (hne : fields ≠ [])
    (hkeys : (fields.map (·.1)).Nodup) :
    Means (.openRecord :: ([Token.comma].intercalate tss ++ [.closeRecord])) (.record fields) := by
  intro f rest hf
  rw [List.cons_append, foldTokens_eq_bind, hf.step (by simp), List.append_assoc]
  show foldTokens { f with stack := .fields [] :: f.stack, expect := .keyOrClose }
    ([Token.comma].intercalate tss ++ .closeRecord :: rest) = _
  refine (foldTokens_fields h hne ?_ (Or.inr rfl) rfl).trans ?_
  · exact hkeys
  exact congrArg (·.bind (foldTokens · rest)) (Fold.finish_expect f .keyOrClose _)

theorem Means.emptyList : Means [.openList, .closeList] (.list []) := by
  intro f rest hf
  rw [List.cons_append, foldTokens_eq_bind, hf.step (by simp)]
  show foldTokens { f with stack := .items [] :: f.stack, expect := .valueOrClose }
    (.closeList :: rest) = _
  rw [foldTokens_eq_bind]
  exact congrArg (·.bind (foldTokens · rest)) (Fold.finish_expect f .valueOrClose _)

theorem Means.emptyRecord : Means [.openRecord, .closeRecord] (.record []) := by
  intro f rest hf
  rw [List.cons_append, foldTokens_eq_bind, hf.step (by simp)]
  show foldTokens { f with stack := .fields [] :: f.stack, expect := .keyOrClose }
    (.closeRecord :: rest) = _
  rw [foldTokens_eq_bind]
  exact congrArg (·.bind (foldTokens · rest)) (Fold.finish_expect f .keyOrClose _)

/-! ## Reading back -/

theorem exists_forall₂ {α β γ : Type} {R : α → γ → Prop} {S : γ → β → Prop} {as : List α}
    {bs : List β} (h : List.Forall₂ (fun a b => ∃ c, R a c ∧ S c b) as bs) :
    ∃ cs, List.Forall₂ R as cs ∧ List.Forall₂ S cs bs := by
  induction h with
  | nil =>
      exact ⟨[], List.Forall₂.nil, List.Forall₂.nil⟩
  | cons hfirst _ ih =>
      rcases hfirst with ⟨c, hR, hS⟩
      rcases ih with ⟨cs, hRs, hSs⟩
      exact ⟨c :: cs, List.Forall₂.cons hR hRs, List.Forall₂.cons hS hSs⟩

theorem indentedItems_eq (depth : Nat) (items : List Value) :
    indentedItems depth items = items.map (indentedAt depth) := by
  induction items with
  | nil => rfl
  | cons v rest ih => rw [indentedItems, ih, List.map_cons]

theorem indentedFields_eq (depth : Nat) (fields : Fields) :
    indentedFields depth fields =
      fields.map fun f => quoted f.1 ++ ": " ++ indentedAt depth f.2 := by
  induction fields with
  | nil => rfl
  | cons f rest ih => rw [indentedFields, ih, List.map_cons]

theorem readsAs_field {key printed : String} (h : ReadsAs printed.toList ts) :
    ReadsAs (quoted key ++ ": " ++ printed).toList (.scalar (.text key) :: .colon :: ts) := by
  have htail : ReadsAs (':' :: ' ' :: printed.toList) (.colon :: ts) :=
    (h.space rfl).punctuation rfl
  simpa using (readsAs_quoted key).append (Or.inr rfl) htail

namespace Plain

theorem exists_tokens (h : Plain v) (depth : Nat) :
    ∃ ts, ReadsAs (indentedAt depth v).toList ts ∧ Means ts v := by
  induction h generalizing depth with
  | null =>
      exact ⟨_, readsAs_null, Means.scalar _⟩
  | bool b =>
      exact ⟨_, readsAs_bool b, Means.scalar _⟩
  | text s =>
      exact ⟨_, readsAs_quoted s, Means.scalar _⟩
  | @list items hitems ih =>
      -- Without items there are no lines between the marks.
      cases items with
      | nil =>
          exact ⟨_, readsAs_emptyList, Means.emptyList⟩
      | cons first rest =>
          have hentries : List.Forall₂ (fun e v => ∃ ts, ReadsAs e.toList ts ∧ Means ts v)
              ((first :: rest).map (indentedAt (depth + 1))) (first :: rest) := by
            rw [List.forall₂_map_left_iff, List.forall₂_same]
            exact fun v hv => ih v hv (depth + 1)
          rcases exists_forall₂ hentries with ⟨tss, hreads, hmeans⟩
          refine ⟨_, ?_, Means.list hmeans (List.cons_ne_nil _ _)⟩
          rw [indentedAt, indentedItems_eq]
          exact readsAs_block depth rfl rfl rfl rfl hreads (List.cons_ne_nil _ _)
  | @record fields hkeys hfields ih =>
      cases fields with
      | nil =>
          exact ⟨_, readsAs_emptyRecord, Means.emptyRecord⟩
      | cons first rest =>
          have hentries : List.Forall₂ (fun e f => ∃ ts, ReadsAs e.toList ts ∧ MeansField ts f)
              ((first :: rest).map fun f => quoted f.1 ++ ": " ++ indentedAt (depth + 1) f.2)
              (first :: rest) := by
            rw [List.forall₂_map_left_iff, List.forall₂_same]
            intro f hf
            rcases ih f hf (depth + 1) with ⟨ts, hreads, hmeans⟩
            exact ⟨_, readsAs_field hreads, ts, rfl, hmeans⟩
          rcases exists_forall₂ hentries with ⟨tss, hreads, hmeans⟩
          refine ⟨_, ?_, Means.record hmeans (List.cons_ne_nil _ _) hkeys⟩
          rw [indentedAt, indentedFields_eq]
          exact readsAs_block depth rfl rfl rfl rfl hreads (List.cons_ne_nil _ _)

theorem read?_indented (h : Plain v) : read? (indented v ++ "\n") = some v := by
  rcases h.exists_tokens 0 with ⟨ts, hreads, hmeans⟩
  have hscan : scan {} (indented v ++ "\n").toList = some { done := ts.reverse } := by
    rw [String.toList_append]
    exact (hreads [] '\n' [] (Or.inl rfl)).trans (by rw [List.append_nil]; rfl)
  have hfold : foldTokens {} ts = some { expect := .separator, result := some v } := by
    have hall := hmeans {} [] (Or.inl rfl)
    rw [List.append_nil] at hall
    exact hall
  rw [read?, tokens?, hscan]
  simp only [List.reverse_reverse, Option.bind_some, hfold]

end Plain
end Json
end PartitionKeys
