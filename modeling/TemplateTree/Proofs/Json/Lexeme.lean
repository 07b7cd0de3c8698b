import TemplateTree.Json.Lexeme
import TemplateTree.Json.Printer
import TemplateTree.Proofs.Json.Numeral

namespace TemplateTree.Json

namespace Lexeme

/-- The character of a digit. -/
def digitChar (digit : Digit) : Char := Char.ofNat ('0'.toNat + digit.val)

theorem isDigit_digitChar (digit : Digit) : isDigit (digitChar digit) := by
  revert digit
  decide

theorem ofChar_digitChar (digit : Digit) : Digit.ofChar (digitChar digit) = digit := by
  revert digit
  decide

theorem digits_map_digitChar (ds : List Digit) : digits (ds.map digitChar) = ds := by
  simp [digits, Function.comp_def, ofChar_digitChar]

theorem isDigit_of_mem_map {ds : List Digit} {c : Char} (h : c ∈ ds.map digitChar) : isDigit c := by
  obtain ⟨digit, -, rfl⟩ := List.mem_map.1 h
  exact isDigit_digitChar digit

/-- A text that does not start with a digit. -/
def NoDigit (cs : List Char) : Prop := ∀ c ∈ cs.head?, isDigit c = false

/-- A text that does not prolong a numeral. -/
def Ends (cs : List Char) : Prop := NoDigit cs ∧ ∀ c ∈ cs.head?, c ≠ '.' ∧ c ≠ 'e' ∧ c ≠ 'E'

theorem ends_cons {c : Char} {cs : List Char} (hdigit : isDigit c = false) (hother : c ≠ '.' ∧ c ≠ 'e' ∧ c ≠ 'E') :
    Ends (c :: cs) := by
  simp [Ends, NoDigit, hdigit, hother]

theorem takeWhile_isDigit_append {front rest : List Char} (hfront : ∀ c ∈ front, isDigit c) (h : NoDigit rest) :
    (front ++ rest).takeWhile isDigit = front := by
  have hrest : rest.takeWhile isDigit = [] := by
    cases rest with
    | nil => rfl
    | cons c cs => simp [h c rfl]
  rw [List.takeWhile_append_of_pos hfront, hrest, List.append_nil]

theorem dropWhile_isDigit_append {front rest : List Char} (hfront : ∀ c ∈ front, isDigit c) (h : NoDigit rest) :
    (front ++ rest).dropWhile isDigit = rest := by
  rw [List.dropWhile_append_of_pos hfront]
  cases rest with
  | nil => rfl
  | cons c cs => simp [h c rfl]

theorem whole?_append {whole : List Digit} {rest : List Char} (hnil : whole ≠ [])
    (hzero : ∀ tail, whole = Digit.zero :: tail → tail = []) (h : NoDigit rest) :
    whole? (whole.map digitChar ++ rest) = some (whole, rest) := by
  unfold whole?
  split
  next tail heq =>
    cases whole with
    | nil => exact absurd rfl hnil
    | cons digit ds =>
      obtain ⟨hdigit, htail⟩ := List.cons.inj heq
      obtain rfl : digit = Digit.zero := by
        rw [← ofChar_digitChar digit, hdigit]
        rfl
      obtain rfl := hzero ds rfl
      obtain rfl : rest = tail := htail
      have hrest : rest.head?.any isDigit = false := by
        cases rest with
        | nil => rfl
        | cons c cs => exact h c rfl
      simp [hrest]
  next =>
    rw [takeWhile_isDigit_append (fun _ => isDigit_of_mem_map) h,
      dropWhile_isDigit_append (fun _ => isDigit_of_mem_map) h]
    simp [hnil, digits_map_digitChar]

/-- The point and the digits after it, if there are any. -/
def fractionChars (fraction : List Digit) : List Char :=
  if fraction.isEmpty then [] else '.' :: fraction.map digitChar

theorem fraction?_append {fraction : List Digit} {rest : List Char} (h : NoDigit rest)
    (hpoint : ∀ c ∈ rest.head?, c ≠ '.') : fraction? (fractionChars fraction ++ rest) = some (fraction, rest) := by
  cases fraction with
  | nil =>
    unfold fraction?
    split
    next tail heq => exact absurd rfl (hpoint '.' (by rw [show rest = '.' :: tail from heq]; rfl))
    next => rfl
  | cons digit ds =>
    simp only [fractionChars, List.isEmpty_cons, Bool.false_eq_true, if_false, List.cons_append, fraction?]
    rw [takeWhile_isDigit_append (fun _ => isDigit_of_mem_map) h,
      dropWhile_isDigit_append (fun _ => isDigit_of_mem_map) h, digits_map_digitChar]
    rfl

/-- The mark of the exponent, its sign and its digits, if it is written. -/
def exponentChars : Option Int → List Char
  | none => []
  | some exponent => 'e' :: (if exponent < 0 then '-' else '+') :: Nat.toDigits 10 exponent.natAbs

theorem isDigit_of_mem_toDigits {n : Nat} {c : Char} (h : c ∈ Nat.toDigits 10 n) : isDigit c := by
  have hdigit : c.isDigit := Nat.isDigit_of_mem_toDigits (by decide) (by decide) h
  simpa [isDigit, Char.isDigit, Char.le_def] using hdigit

theorem foldl_digits_toDigits (n : Nat) :
    (digits (Nat.toDigits 10 n)).foldl (fun (n : Int) digit => 10 * n + digit.val) 0 = n := by
  have hcast (start : Nat) (ds : List Digit) :
      ds.foldl (fun (n : Int) digit => 10 * n + digit.val) start = Numeral.valueFrom start ds := by
    induction ds generalizing start with
    | nil => rfl
    | cons digit rest ih =>
      rw [List.foldl_cons, show 10 * (start : Int) + digit.val = ((start * 10 + digit.val : Nat) : Int) by omega, ih]
      rfl
  calc (digits (Nat.toDigits 10 n)).foldl (fun (n : Int) digit => 10 * n + digit.val) 0
      = Numeral.valueFrom 0 (Numeral.digitsOf n) := hcast 0 _
    _ = n := by rw [Numeral.valueFrom_digitsOf]

theorem exponent?_append (written? : Option Int) {rest : List Char} (h : Ends rest) :
    exponent? (exponentChars written? ++ rest) = some (written?, rest) := by
  cases written? with
  | none =>
    cases rest with
    | nil => rfl
    | cons c cs =>
      obtain ⟨-, hlower, hupper⟩ := h.2 c rfl
      simp [exponentChars, exponent?, hlower, hupper]
  | some exponent =>
    rw [exponentChars]
    generalize hmagnitude : exponent.natAbs = magnitude
    have hfront : ∀ c ∈ Nat.toDigits 10 magnitude, isDigit c := fun _ => isDigit_of_mem_toDigits
    have htake := takeWhile_isDigit_append hfront h.1
    have hdrop := dropWhile_isDigit_append hfront h.1
    have hvalue := foldl_digits_toDigits magnitude
    have hnil : Nat.toDigits 10 magnitude ≠ [] := List.ne_nil_of_length_pos Nat.length_toDigits_pos
    by_cases hsign : exponent < 0
    · simp [exponent?, hsign, htake, hdrop, hvalue, hnil]
      omega
    · simp [exponent?, hsign, htake, hdrop, hvalue, hnil]
      omega

theorem toList_text (numeral : Numeral) : numeral.text.toList =
    (if numeral.negative then ['-'] else []) ++ (numeral.whole.map digitChar ++
      (fractionChars numeral.fraction ++ exponentChars numeral.exponent?)) := by
  have hdigits (ds : List Digit) : (Numeral.digitText ds).toList = ds.map digitChar := String.toList_ofList
  have hfraction : (if numeral.fraction.isEmpty then "" else "." ++ Numeral.digitText numeral.fraction).toList =
      fractionChars numeral.fraction := by
    rw [fractionChars]
    split
    · rfl
    · rw [String.toList_append, hdigits]
      rfl
  have hexponent : ((numeral.exponent?.map Numeral.exponentText).getD "").toList = exponentChars numeral.exponent? := by
    cases numeral.exponent? with
    | none => rfl
    | some exponent =>
      simp only [Option.map_some, Option.getD_some, Numeral.exponentText, String.toList_append, Nat.toList_repr,
        exponentChars]
      split <;> rfl
  have hsign : (if numeral.negative then "-" else "").toList = if numeral.negative then ['-'] else [] := by
    split <;> rfl
  simp only [Numeral.text, String.toList_append, hdigits, hfraction, hexponent, hsign, List.append_assoc]

theorem noDigit_exponentChars_append (written? : Option Int) {rest : List Char} (h : Ends rest) :
    NoDigit (exponentChars written? ++ rest) ∧ ∀ c ∈ (exponentChars written? ++ rest).head?, c ≠ '.' := by
  cases written? with
  | none => exact ⟨h.1, fun c hc => (h.2 c hc).1⟩
  | some exponent => simp [exponentChars, NoDigit, isDigit]

theorem noDigit_fractionChars_append (fraction : List Digit) {rest : List Char} (h : NoDigit rest) :
    NoDigit (fractionChars fraction ++ rest) := by
  cases fraction with
  | nil => exact h
  | cons digit ds => simp [fractionChars, NoDigit, isDigit]

theorem splitSign_of_isDigit {c : Char} {cs : List Char} (h : isDigit c) : splitSign (c :: cs) = (false, c :: cs) := by
  unfold splitSign
  split
  next heq =>
    obtain ⟨rfl, -⟩ := List.cons.inj heq
    exact absurd h (by decide)
  next => rfl

theorem numeral?_text {numeral : Numeral} (hnumeral : numeral.WellFormed) {rest : List Char} (h : Ends rest) :
    numeral? (numeral.text.toList ++ rest) = some (numeral, rest) := by
  obtain ⟨negative, whole, fraction, written?⟩ := numeral
  obtain ⟨hexponent, hpoint⟩ := noDigit_exponentChars_append written? h
  have hfraction := noDigit_fractionChars_append fraction hexponent
  have hsign : splitSign ((if negative then ['-'] else []) ++ (whole.map digitChar ++
      (fractionChars fraction ++ (exponentChars written? ++ rest)))) =
        (negative, whole.map digitChar ++ (fractionChars fraction ++ (exponentChars written? ++ rest))) := by
    cases negative with
    | true => rfl
    | false =>
      cases whole with
      | nil => exact absurd rfl hnumeral.1
      | cons digit ds => exact splitSign_of_isDigit (isDigit_digitChar digit)
  rw [toList_text]
  simp only [List.append_assoc, numeral?, hsign, whole?_append hnumeral.1 hnumeral.2 hfraction,
    fraction?_append hexponent hpoint, exponent?_append written? h, Option.bind_eq_bind, Option.bind_some]
  rfl

/-- What starts like a numeral can be nothing else. -/
theorem next?_of_numeral? {c : Char} {cs rest : List Char} {numeral : Numeral} (hc : c = '-' ∨ isDigit c)
    (h : numeral? (c :: cs) = some (numeral, rest)) : next? (c :: cs) = some (.num numeral, rest) := by
  unfold next?
  split
  case h_11 => simp [h]
  all_goals
    rename_i heq
    obtain ⟨rfl, -⟩ := List.cons.inj heq
    exact absurd hc (by decide)

theorem exists_toList_text {numeral : Numeral} (hnumeral : numeral.WellFormed) :
    ∃ c cs, numeral.text.toList = c :: cs ∧ (c = '-' ∨ isDigit c) := by
  obtain ⟨negative, whole, fraction, written?⟩ := numeral
  rw [toList_text]
  cases negative with
  | true => exact ⟨_, _, rfl, .inl rfl⟩
  | false =>
    cases whole with
    | nil => exact absurd rfl hnumeral.1
    | cons digit ds => exact ⟨_, _, rfl, .inr (isDigit_digitChar digit)⟩

theorem next?_text {numeral : Numeral} (hnumeral : numeral.WellFormed) {rest : List Char} (h : Ends rest) :
    next? (numeral.text.toList ++ rest) = some (.num numeral, rest) := by
  have hscan := numeral?_text hnumeral h
  obtain ⟨c, cs, htext, hc⟩ := exists_toList_text hnumeral
  rw [htext] at hscan ⊢
  exact next?_of_numeral? hc hscan

/-- Every control character has an escape that stands for it. -/
theorem escapeChar_form : ∀ n < 32, (match (escapeChar (Char.ofNat n)).toList with
    | ['\\', e] => e ≠ 'u' && escaped? e = some (Char.ofNat n)
    | ['\\', 'u', '0', '0', a, b] => hex? ['0', '0', a, b] = some n
    | _ => false) = true := by decide +kernel

/-- The escape of a control character has one of the two forms of escapes. -/
theorem toList_escapeChar_of_lt {n : Nat} (h : n < 32) :
    (∃ e, (escapeChar (Char.ofNat n)).toList = ['\\', e] ∧ e ≠ 'u' ∧ escaped? e = some (Char.ofNat n)) ∨
      ∃ a b, (escapeChar (Char.ofNat n)).toList = ['\\', 'u', '0', '0', a, b] ∧ hex? ['0', '0', a, b] = some n := by
  have hform := escapeChar_form n h
  split at hform
  next e heq => exact .inl ⟨e, heq, by simpa using hform⟩
  next a b heq => exact .inr ⟨a, b, heq, of_decide_eq_true hform⟩
  next => cases hform

theorem stringBody_short {e c : Char} (he : e ≠ 'u') (hc : escaped? e = some c) (rest : List Char) :
    stringBody ('\\' :: e :: rest) = (stringBody rest).map fun (units, rest) => (c.toNat :: units, rest) := by
  rw [stringBody]
  · simp only [hc, Option.bind_eq_bind, Option.bind_some]
    cases stringBody rest <;> rfl
  · rintro a b c d rest h -
    exact he h

theorem stringBody_plain {c : Char} (hquote : c ≠ '"') (hbackslash : c ≠ '\\') (hcontrol : ¬ c.toNat < 0x20)
    (rest : List Char) :
    stringBody (c :: rest) = (stringBody rest).map fun (units, rest) => (c.toNat :: units, rest) := by
  rw [stringBody]
  · simp only [hbackslash, hcontrol, decide_false, Bool.or_false, Bool.false_eq_true, if_false, Option.bind_eq_bind]
    cases stringBody rest <;> rfl
  · exact hquote
  · exact fun _ _ _ _ _ h _ => hbackslash h
  · exact fun _ _ h _ => hbackslash h

theorem stringBody_escapeChar (c : Char) (rest : List Char) :
    stringBody ((escapeChar c).toList ++ rest) =
      (stringBody rest).map fun (units, rest) => (c.toNat :: units, rest) := by
  by_cases hcontrol : c.toNat < 0x20
  · have hform := toList_escapeChar_of_lt hcontrol
    rw [Char.ofNat_toNat] at hform
    obtain ⟨e, htext, he, hescaped⟩ | ⟨a, b, htext, hhex⟩ := hform
    · rw [htext]
      exact stringBody_short he hescaped rest
    · rw [htext, List.cons_append, List.cons_append, List.cons_append, List.cons_append, List.cons_append, List.cons_append,
        List.nil_append, stringBody, hhex]
      simp only [Option.bind_eq_bind, Option.bind_some]
      cases stringBody rest <;> rfl
  by_cases hquote : c = '"'
  · subst hquote
    exact stringBody_short (by decide) rfl rest
  by_cases hbackslash : c = '\\'
  · subst hbackslash
    exact stringBody_short (by decide) rfl rest
  have htext : (escapeChar c).toList = [c] := by
    have hless : ¬ c.toNat < 0x10 := by omega
    have hother : c ≠ '\x08' ∧ c ≠ '\x0c' ∧ c ≠ '\n' ∧ c ≠ '\r' ∧ c ≠ '\t' := by
      refine ⟨?_, ?_, ?_, ?_, ?_⟩ <;>
        · rintro rfl
          exact hcontrol (by decide)
    simp [escapeChar, hquote, hbackslash, hother, hless, hcontrol]
  rw [htext]
  exact stringBody_plain hquote hbackslash hcontrol rest

theorem stringBody_append (cs rest : List Char) :
    stringBody (cs.flatMap (fun c => (escapeChar c).toList) ++ '"' :: rest) = some (cs.map Char.toNat, rest) := by
  induction cs with
  | nil => rfl
  | cons c cs ih => rw [List.flatMap_cons, List.append_assoc, stringBody_escapeChar, ih]; rfl

/-- No character is half of a surrogate pair. -/
theorem toNat_not_surrogate (c : Char) : ¬ (0xD800 ≤ c.toNat ∧ c.toNat < 0xE000) := by
  have hvalid := c.valid
  simp only [UInt32.isValidChar, Nat.isValidChar] at hvalid
  change ¬ (0xD800 ≤ c.val.toNat ∧ c.val.toNat < 0xE000)
  omega

theorem joinSurrogates_map_toNat (cs : List Char) : joinSurrogates (cs.map Char.toNat) = some cs := by
  induction cs with
  | nil => rfl
  | cons c rest ih =>
    have hc := toNat_not_surrogate c
    have hhigh : (decide (0xD800 ≤ c.toNat) && decide (c.toNat < 0xDC00)) = false := by
      simp only [Bool.and_eq_false_iff, decide_eq_false_iff_not]
      omega
    have hlow : (decide (0xDC00 ≤ c.toNat) && decide (c.toNat < 0xE000)) = false := by
      simp only [Bool.and_eq_false_iff, decide_eq_false_iff_not]
      omega
    have hany : (decide (0xD800 ≤ c.toNat) && decide (c.toNat < 0xE000)) = false := by
      simp only [Bool.and_eq_false_iff, decide_eq_false_iff_not]
      omega
    cases rest with
    | nil => simp [joinSurrogates, hany, Char.ofNat_toNat]
    | cons next rest =>
      rw [List.map_cons] at ih
      simp [joinSurrogates, hhigh, hlow, ih, Char.ofNat_toNat]

theorem toList_quote (s : String) :
    (quote s).toList = '"' :: (s.toList.flatMap (fun c => (escapeChar c).toList) ++ ['"']) := by
  simp [quote, String.toList_join, List.flatMap_map]

theorem next?_quote (s : String) (rest : List Char) :
    next? ((quote s).toList ++ rest) = some (.str (some s), rest) := by
  rw [toList_quote, List.cons_append, List.append_assoc, next?]
  simp [stringBody_append, joinSurrogates_map_toNat]

/-- A text is scanned as some lexemes, whatever follows that does not prolong a numeral. -/
structure Splits (front : List Char) (lexemes : List Lexeme) : Prop where
  length_le : lexemes.length ≤ front.length
  scan : ∀ (count : Nat) {rest : List Char}, Ends rest →
    scanUpTo (lexemes.length + count) (front ++ rest) = (scanUpTo count rest).map (lexemes ++ ·)

theorem scanUpTo_blank {c : Char} (hc : isBlank c) (count : Nat) (cs : List Char) :
    scanUpTo count (c :: cs) = scanUpTo count cs := by
  rw [scanUpTo.eq_def, scanUpTo.eq_def count cs]
  simp only [List.dropWhile_cons_of_pos hc]

theorem scanUpTo_of_next? {c : Char} {cs rest : List Char} {lexeme : Lexeme} (hc : isBlank c = false)
    (h : next? (c :: cs) = some (lexeme, rest)) (count : Nat) :
    scanUpTo (count + 1) (c :: cs) = (scanUpTo count rest).map (lexeme :: ·) := by
  have hdrop : (c :: cs).dropWhile isBlank = c :: cs := List.dropWhile_cons_of_neg (by simp [hc])
  rw [scanUpTo.eq_def]
  simp only [hdrop, h, Option.bind_eq_bind, Option.bind_some]
  cases scanUpTo count rest <;> rfl

theorem toList_newline (indent : Nat) : (newline indent).toList = '\n' :: List.replicate indent ' ' := by simp [newline]

namespace Splits

theorem nil : Splits [] [] := ⟨Nat.le_refl _, fun count rest _ => by simp⟩

/-- A blank is passed over. -/
theorem blank {c : Char} {front : List Char} {lexemes : List Lexeme} (hc : isBlank c) (h : Splits front lexemes) :
    Splits (c :: front) lexemes :=
  ⟨Nat.le_succ_of_le h.length_le, fun count _ hends => (scanUpTo_blank hc _ _).trans (h.scan count hends)⟩

/-- A lexeme that ends by itself. -/
theorem lexeme (c : Char) (cs : List Char) {front : List Char} {lexeme : Lexeme} {lexemes : List Lexeme}
    (hc : isBlank c = false) (hnext : ∀ rest, next? (c :: cs ++ rest) = some (lexeme, rest)) (h : Splits front lexemes) :
    Splits (c :: cs ++ front) (lexeme :: lexemes) where
  length_le := by
    have := h.length_le
    simp only [List.length_append, List.length_cons]
    omega
  scan count rest hends := by
    rw [List.append_assoc, List.length_cons, Nat.add_right_comm]
    calc scanUpTo (lexemes.length + count + 1) (c :: cs ++ (front ++ rest))
        = (scanUpTo (lexemes.length + count) (front ++ rest)).map (lexeme :: ·) := scanUpTo_of_next? hc (hnext _) _
      _ = ((scanUpTo count rest).map (lexemes ++ ·)).map (lexeme :: ·) := by rw [h.scan count hends]
      _ = (scanUpTo count rest).map (lexeme :: lexemes ++ ·) := by rw [Option.map_map]; rfl

/-- A value, and what follows it. -/
theorem append {front back : List Char} {lexemes more : List Lexeme} (hfront : Splits front lexemes)
    (hback : Splits back more) (hends : ∀ rest, Ends rest → Ends (back ++ rest)) : Splits (front ++ back) (lexemes ++ more) where
  length_le := by
    rw [List.length_append, List.length_append]
    exact Nat.add_le_add hfront.length_le hback.length_le
  scan count rest h := by
    rw [List.append_assoc, List.length_append, Nat.add_assoc, hfront.scan _ (hends rest h), hback.scan count h,
      Option.map_map]
    simp [Function.comp_def]

/-- A text of one lexeme that may have to be told apart from what follows. -/
theorem single (c : Char) (cs : List Char) {lexeme : Lexeme} (hc : isBlank c = false)
    (hnext : ∀ rest, Ends rest → next? (c :: cs ++ rest) = some (lexeme, rest)) : Splits (c :: cs) [lexeme] where
  length_le := by simp
  scan count rest hends := by
    rw [List.length_singleton, Nat.add_comm]
    exact scanUpTo_of_next? hc (hnext rest hends) count

theorem punctuation (c : Char) {front : List Char} {mark : Lexeme} {lexemes : List Lexeme} (hc : isBlank c = false)
    (hnext : ∀ rest, next? (c :: rest) = some (mark, rest)) (h : Splits front lexemes) :
    Splits (c :: front) (mark :: lexemes) :=
  lexeme c [] hc hnext h

theorem newline {front : List Char} {lexemes : List Lexeme} (indent : Nat) (h : Splits front lexemes) :
    Splits ((newline indent).toList ++ front) lexemes := by
  have hspaces : ∀ count, Splits (List.replicate count ' ' ++ front) lexemes := by
    intro count
    induction count with
    | zero => exact h
    | succ count ih => exact blank rfl ih
  rw [toList_newline]
  exact blank rfl (hspaces indent)

theorem quote (s : String) {front : List Char} {lexemes : List Lexeme} (h : Splits front lexemes) :
    Splits ((quote s).toList ++ front) (.str (some s) :: lexemes) := by
  have hnext := next?_quote s
  rw [toList_quote] at hnext ⊢
  exact lexeme _ _ rfl hnext h

theorem text {numeral : Numeral} (hnumeral : numeral.WellFormed) : Splits numeral.text.toList [.num numeral] := by
  have hnext : ∀ rest, Ends rest → next? (numeral.text.toList ++ rest) = some (.num numeral, rest) := fun _ =>
    next?_text hnumeral
  obtain ⟨c, cs, htext, hc⟩ := exists_toList_text hnumeral
  rw [htext] at hnext ⊢
  refine single _ _ ?_ hnext
  obtain rfl | hdigit := hc
  · rfl
  · rw [Bool.eq_false_iff]
    intro hblank
    simp only [isBlank, Bool.or_eq_true, decide_eq_true_eq] at hblank
    obtain ((rfl | rfl) | rfl) | rfl := hblank <;> exact absurd hdigit (by decide)

theorem null : Splits "null".toList [.null] := single 'n' ['u', 'l', 'l'] rfl fun _ _ => rfl

theorem bool (value : Bool) : Splits (if value then "true" else "false").toList [.bool value] := by
  cases value with
  | true => exact single 't' ['r', 'u', 'e'] rfl fun _ _ => rfl
  | false => exact single 'f' ['a', 'l', 's', 'e'] rfl fun _ _ => rfl

end Splits

end Lexeme

mutual

/-- The lexemes of a written value. What cannot be read is written as null. -/
def lexemes : Json → List Lexeme
  | null => [.null]
  | bool value => [.bool value]
  | num numeral => [.num numeral]
  | str value => [.str (some value)]
  | arr [] => [.leftBracket, .rightBracket]
  | arr (item :: rest) => .leftBracket :: (item.lexemes ++ (itemsLexemes rest ++ [.rightBracket]))
  | obj [] => [.leftBrace, .rightBrace]
  | obj ((key, value) :: rest) =>
    .leftBrace :: .str (some key) :: .colon :: (value.lexemes ++ (fieldsLexemes rest ++ [.rightBrace]))
  | unreadable => [.null]

/-- The items after the first. -/
def itemsLexemes : List Json → List Lexeme
  | [] => []
  | item :: rest => .comma :: (item.lexemes ++ itemsLexemes rest)

/-- The fields after the first. -/
def fieldsLexemes : List (String × Json) → List Lexeme
  | [] => []
  | (key, value) :: rest => .comma :: .str (some key) :: .colon :: (value.lexemes ++ fieldsLexemes rest)

end

mutual

/-- All numerals of a value are as the grammar has them. -/
def WellFormed : Json → Prop
  | num numeral => numeral.WellFormed
  | arr items => ItemsWellFormed items
  | obj fields => FieldsWellFormed fields
  | _ => True

def ItemsWellFormed : List Json → Prop
  | [] => True
  | item :: rest => item.WellFormed ∧ ItemsWellFormed rest

def FieldsWellFormed : List (String × Json) → Prop
  | [] => True
  | (_, value) :: rest => value.WellFormed ∧ FieldsWellFormed rest

end

open Lexeme

theorem ends_newline_append {indent : Nat} {rest : List Char} : Ends ((newline indent).toList ++ rest) := by
  rw [toList_newline]
  exact ends_cons rfl (by decide)

theorem ends_prettyItems_append {indent : Nat} {items : List Json} {rest : List Char} (h : Ends rest) :
    Ends ((prettyItems indent items).toList ++ rest) := by
  cases items with
  | nil => exact h
  | cons item items =>
    simp only [prettyItems, String.toList_append, List.append_assoc]
    exact ends_cons rfl (by decide)

theorem ends_prettyFields_append {indent : Nat} {fields : List (String × Json)} {rest : List Char} (h : Ends rest) :
    Ends ((prettyFields indent fields).toList ++ rest) := by
  cases fields with
  | nil => exact h
  | cons field fields =>
    simp only [prettyFields, String.toList_append, List.append_assoc]
    exact ends_cons rfl (by decide)

/-- The last part and the bracket on a line of its own. -/
theorem Lexeme.Splits.closed {front back : List Char} {lexemes more : List Lexeme} {mark : Lexeme} (c : Char)
    (indent : Nat) (hc : isBlank c = false) (hnext : ∀ rest, next? (c :: rest) = some (mark, rest))
    (hfront : Splits front lexemes) (hback : Splits back more) (hends : ∀ rest, Ends rest → Ends (back ++ rest)) :
    Splits (front ++ (back ++ ((Json.newline indent).toList ++ [c]))) (lexemes ++ (more ++ [mark])) := by
  have hbracket : Splits ((Json.newline indent).toList ++ [c]) [mark] := .newline indent (.punctuation c hc hnext .nil)
  have htail := hback.append hbracket fun rest _ => by
    rw [List.append_assoc]
    exact ends_newline_append
  refine hfront.append htail fun rest _ => ?_
  rw [List.append_assoc, List.append_assoc]
  exact hends _ ends_newline_append

mutual

/-- A value is scanned as its lexemes, by recursion on the value. -/
theorem splits_pretty : ∀ (json : Json) (indent : Nat), json.WellFormed →
    Splits (json.pretty indent).toList json.lexemes
  | null, _, _ => .null
  | bool value, _, _ => .bool value
  | num numeral, _, h => .text h
  | str value, _, _ => by
    have hquote := Splits.quote value .nil
    rw [List.append_nil] at hquote
    exact hquote
  | arr [], _, _ => by
    rw [pretty, lexemes]
    exact .punctuation '[' rfl (fun _ => rfl) (.punctuation ']' rfl (fun _ => rfl) .nil)
  | arr (item :: rest), indent, h => by
    have hparts := (splits_pretty item (indent + 2) h.1).closed ']' indent rfl (fun _ => rfl)
      (splits_prettyItems rest (indent + 2) h.2) fun _ => ends_prettyItems_append
    simp only [pretty, String.toList_append, List.append_assoc]
    exact .punctuation '[' rfl (fun _ => rfl) (.newline (indent + 2) hparts)
  | obj [], _, _ => by
    rw [pretty, lexemes]
    exact .punctuation '\x7b' rfl (fun _ => rfl) (.punctuation '\x7d' rfl (fun _ => rfl) .nil)
  | obj ((key, value) :: rest), indent, h => by
    have hparts := (splits_pretty value (indent + 2) h.1).closed '\x7d' indent rfl (fun _ => rfl)
      (splits_prettyFields rest (indent + 2) h.2) fun _ => ends_prettyFields_append
    simp only [pretty, String.toList_append, List.append_assoc]
    exact .punctuation '\x7b' rfl (fun _ => rfl) (.newline (indent + 2) (.quote key
      (.punctuation ':' rfl (fun _ => rfl) (.blank (c := ' ') rfl hparts))))
  | unreadable, _, _ => .null
termination_by structural json => json

theorem splits_prettyItems : ∀ (items : List Json) (indent : Nat), ItemsWellFormed items →
    Splits (prettyItems indent items).toList (itemsLexemes items)
  | [], _, _ => .nil
  | item :: rest, indent, h => by
    have hparts :=
      (splits_pretty item indent h.1).append (splits_prettyItems rest indent h.2) fun _ => ends_prettyItems_append
    simp only [prettyItems, String.toList_append, List.append_assoc]
    exact .punctuation ',' rfl (fun _ => rfl) (.newline indent hparts)
termination_by structural items => items

theorem splits_prettyFields : ∀ (fields : List (String × Json)) (indent : Nat), FieldsWellFormed fields →
    Splits (prettyFields indent fields).toList (fieldsLexemes fields)
  | [], _, _ => .nil
  | (key, value) :: rest, indent, h => by
    have hparts := (splits_pretty value indent h.1).append (splits_prettyFields rest indent h.2) fun _ =>
      ends_prettyFields_append
    simp only [prettyFields, String.toList_append, List.append_assoc]
    exact .punctuation ',' rfl (fun _ => rfl) (.newline indent (.quote key
      (.punctuation ':' rfl (fun _ => rfl) (.blank (c := ' ') rfl hparts))))
termination_by structural fields => fields

end

/-- A written value is scanned as its lexemes. -/
theorem scan_pretty {json : Json} (h : json.WellFormed) : Lexeme.scan (json.pretty 0 ++ "\n") = some json.lexemes := by
  have hsplits := splits_pretty json 0 h
  obtain ⟨count, hcount⟩ := Nat.exists_eq_add_of_le hsplits.length_le
  have hlength : (json.pretty 0 ++ "\n").length = json.lexemes.length + (count + 1) := by
    rw [String.length_append, ← String.length_toList, hcount]
    rfl
  have hends : Ends ['\n'] := ends_cons rfl (by decide)
  rw [Lexeme.scan, hlength, String.toList_append]
  calc scanUpTo (json.lexemes.length + (count + 1)) ((json.pretty 0).toList ++ ['\n'])
      = (scanUpTo (count + 1) ['\n']).map (json.lexemes ++ ·) := hsplits.scan _ hends
    _ = some json.lexemes := by
        rw [scanUpTo_blank rfl]
        exact congrArg some (List.append_nil _)

end TemplateTree.Json
