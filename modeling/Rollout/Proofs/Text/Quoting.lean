import Rollout.Text.Quoted

/-!
# Quoted text reads back

A quoted text stands for the text (`unquote?_quote`). The reader goes by what may
stand between the quotation marks of a string in JSON, and knows nothing of how
texts are quoted.
-/

namespace Rollout.Text

/-- What a digit of base sixteen counts for, in either case. -/
def digit? (c : Char) : Option Nat :=
  ("0123456789abcdef".toList.idxOf? c).or ("0123456789ABCDEF".toList.idxOf? c)

/-- The character whose number four digits of base sixteen give. Half of a pair of
surrogates is none. -/
def coded? (a b c d : Char) : Option Char := do
  let n := (((← digit? a) * 16 + (← digit? b)) * 16 + (← digit? c)) * 16 + (← digit? d)
  if n.isValidChar then some (Char.ofNat n) else none

/-- The letters that may stand behind a backslash and what each of them means. -/
def escapes : List (Char × Char) :=
  [('"', '"'), ('\\', '\\'), ('/', '/'), ('b', '\x08'), ('f', '\x0c'), ('n', '\n'), ('r', '\r'),
    ('t', '\t')]

/-- Whether a character stands for itself between quotation marks. -/
def isPlain (c : Char) : Bool :=
  0x20 ≤ c.toNat && c != '"' && c != '\\'

/-- Reads what follows a quotation mark, up to the one that ends all. -/
def unquoteChars? : List Char → Option (List Char)
  | ['"'] => some []
  | '\\' :: 'u' :: a :: b :: c :: d :: rest => do
    let c ← coded? a b c d
    (unquoteChars? rest).map (c :: ·)
  | '\\' :: letter :: rest => do
    let c ← escapes.lookup letter
    (unquoteChars? rest).map (c :: ·)
  | c :: rest => if isPlain c then (unquoteChars? rest).map (c :: ·) else none
  | [] => none

/-- The text that a string of JSON stands for. -/
def unquote? (quoted : String) : Option String :=
  match quoted.toList with
  | '"' :: rest => (unquoteChars? rest).map String.ofList
  | _ => none

variable {c : Char} {rest : List Char}

theorem coded?_hexPair {n : Nat} (h : n < 0x20) :
    coded? '0' '0' (hexDigit 'a' (n / 16)) (hexDigit 'a' (n % 16)) = some (Char.ofNat n) := by
  revert n
  decide

theorem unquoteChars?_escape {letter : Char} (known : escapes.lookup letter = some c)
    (rest : List Char) :
    unquoteChars? ('\\' :: letter :: rest) = (unquoteChars? rest).map (c :: ·) := by
  have hletter : letter ≠ 'u' := by
    rintro rfl
    cases known
  simp [unquoteChars?, hletter, known]

theorem unquoteChars?_plain (h : isPlain c = true) (rest : List Char) :
    unquoteChars? (c :: rest) = (unquoteChars? rest).map (c :: ·) := by
  have hmark : c ≠ '"' := by
    rintro rfl
    cases h
  have hslash : c ≠ '\\' := by
    rintro rfl
    cases h
  simp [unquoteChars?, hmark, hslash, h]

theorem unquoteChars?_coded {n : Nat} (h : n < 0x20) (rest : List Char) :
    unquoteChars? ('\\' :: 'u' :: '0' :: '0' :: hexPair 'a' n ++ rest) =
      (unquoteChars? rest).map (Char.ofNat n :: ·) := by
  simp [unquoteChars?, hexPair, coded?_hexPair h]

theorem unquoteChars?_quoteChar (c : Char) (rest : List Char) :
    unquoteChars? (quoteChar c ++ rest) = (unquoteChars? rest).map (c :: ·) := by
  have named {n : Nat} (h : c.toNat = n) : c = Char.ofNat n := by rw [← h, Char.ofNat_toNat]
  -- One case for each way to write a character; only the last writes it as it is.
  fun_cases quoteChar c
  case case6 hbackspace => exact unquoteChars?_escape (named hbackspace ▸ rfl) rest
  case case7 hfeed => exact unquoteChars?_escape (named hfeed ▸ rfl) rest
  case case8 hcontrol =>
    have h := unquoteChars?_coded hcontrol rest
    rwa [Char.ofNat_toNat] at h
  case case9 hmark hslash _ _ _ _ _ hcontrol =>
    exact unquoteChars?_plain (by simp [isPlain, hmark, hslash, Nat.le_of_not_lt hcontrol]) rest
  all_goals
    subst c
    exact unquoteChars?_escape rfl rest

theorem unquoteChars?_flatMap (cs : List Char) :
    unquoteChars? (cs.flatMap quoteChar ++ ['"']) = some cs := by
  induction cs with
  | nil => rfl
  | cons c cs ih =>
    rw [List.flatMap_cons, List.append_assoc, unquoteChars?_quoteChar, ih, Option.map_some]

/-- A quoted text stands for the text. -/
theorem unquote?_quote (text : String) : unquote? (quote text) = some text := by
  simp [unquote?, quote, unquoteChars?_flatMap]

-- A bell, a tab, a quotation mark and a backslash.
example : unquote? "\"\\u0007\\t\\\"\\\\\"" = some "\x07\t\"\\" := by decide

end Rollout.Text
