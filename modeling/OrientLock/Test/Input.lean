import Mathlib.Data.List.TakeWhile
import Mathlib.Data.Nat.Init

set_option autoImplicit false

/- The integer that `selector.c` hands to `trial.c` and `pollard.c` through the file
`integer`. Each turn of `selector` empties the file and writes the decimal digits of its
counter, with no newline; `read_integer` reads the first line with `read_line` and parses it
with `mpz_init_set_str` in base 10. GMP's `mpz_get_str` and `mpz_set_str` are modelled on the
strings they meet here: the digits of a number that is not negative. -/
namespace OrientLock

/-- The loop of `read_line`: `fscanf(input, "%c", &c)` stores the next character in `c` until
the file ends or `c` is a newline, and each other character is appended to `line`. The result
is the last value of `c` and the line. -/
def readLineLoop : List Char → Char → List Char → Char × List Char
  | [], c, line => (c, line)
  | next :: rest, _, line =>
    if next = '\n' then (next, line) else readLineLoop rest next (line ++ [next])

/-- `read_line` of `trial.c` and `pollard.c` on the characters of a file: `NULL` when `c` is
still or again NUL after the loop. The failures of `calloc` and `realloc` are not modelled. -/
def readLine (input : List Char) : Option (List Char) :=
  let (c, line) := readLineLoop input '\x00' []
  if c = '\x00' then none else some line

/-- A buffer as the C string its callers see: the characters before its first NUL. -/
def cString (buffer : List Char) : List Char := buffer.takeWhile (· ≠ '\x00')

/-- The value of a decimal digit. -/
def digitValue (c : Char) : Nat := c.toNat - '0'.toNat

/-- `mpz_set_str(rop, str, 10)` on a string of decimal digits: the value it sets. `none` for
the strings on which it returns -1 here: the empty string, and a string with a character that
is not a digit (GMP's sign and white space are not modelled). -/
def mpzSetStr (str : List Char) : Option Nat :=
  if str ≠ [] ∧ str.all Char.isDigit = true then
    some (str.foldl (fun value c => 10 * value + digitValue c) 0)
  else none

/-- `mpz_get_str(NULL, 10, op)` for `op ≥ 0`: its decimal digits. -/
def mpzGetStr (op : Nat) : List Char := Nat.toDigits 10 op

/-- `read_integer` between `orient_read_lock` and `orient_read_unlock`, given the file (`none`
when `fopen` fails) and the old value of `result`: the return code and the new value. A line
that `mpz_init_set_str` rejects still returns 1, with a value GMP leaves unspecified
(`none`). -/
def readInteger (file : Option (List Char)) (result : Option Nat) : Int × Option Nat :=
  match file with
  | none => (0, result)
  | some contents =>
    match readLine contents with
    | some line => (1, mpzSetStr (cString line))
    | none => (0, result)

/-- `is_number` of `selector.c`: `NULL` is not a number, and a string is one when every
character before its NUL is a digit; so the empty string is one. -/
def isNumber : Option (List Char) → Bool
  | none => false
  | some string => string.all Char.isDigit

/-- The start of `selector`'s `main`: `usage()` and `exit(-1)` unless `argv` holds exactly one
argument and it `is_number`; then the counter is what `mpz_init_set_str` parses from it, which
GMP leaves unspecified for the empty argument. -/
def selectorStart (argv : List (List Char)) : Except Int (Option Nat) :=
  match argv with
  | [_, argument] => if isNumber (some argument) then .ok (mpzSetStr argument) else .error (-1)
  | _ => .error (-1)

example : selectorStart [['s'], ['4', '2']] = .ok (some 42) := rfl

/-- `is_number` accepts the empty argument, on which `mpz_init_set_str` fails. -/
example : selectorStart [['s'], []] = .ok none := rfl

example : selectorStart [['s'], ['-', '1']] = .error (-1) := rfl

section ReadLine

theorem readLineLoop_eq (input : List Char) (c : Char) (line : List Char) :
    readLineLoop input c line =
      if '\n' ∈ input then ('\n', line ++ input.takeWhile (· ≠ '\n'))
      else (input.getLastD c, line ++ input) := by
  induction input generalizing c line with
  | nil => simp [readLineLoop]
  | cons next rest ih =>
    by_cases newline : next = '\n'
    · subst newline
      simp [readLineLoop]
    · rw [readLineLoop, if_neg newline, ih]
      have notHead : ('\n' = next) = False := eq_false fun same => newline same.symm
      by_cases later : '\n' ∈ rest
      · simp [later, newline]
      · simp [later, notHead, List.getLast?_cons]

end ReadLine

section Digits

theorem digit_ne_newline {c : Char} (digit : c.isDigit = true) : c ≠ '\n' := by
  rintro rfl
  exact absurd digit (by decide)

theorem digit_ne_nul {c : Char} (digit : c.isDigit = true) : c ≠ '\x00' := by
  rintro rfl
  exact absurd digit (by decide)

theorem digitValue_digitChar {d : Nat} (small : d < 10) : digitValue d.digitChar = d := by
  have table : ∀ d < 10, digitValue d.digitChar = d := by decide
  exact table d small

theorem foldl_digits_append (front : List Char) (c : Char) :
    (front ++ [c]).foldl (fun value c => 10 * value + digitValue c) 0 =
      10 * front.foldl (fun value c => 10 * value + digitValue c) 0 + digitValue c := by
  rw [List.foldl_append, List.foldl_cons, List.foldl_nil]

theorem foldl_toDigits (n : Nat) :
    (Nat.toDigits 10 n).foldl (fun value c => 10 * value + digitValue c) 0 = n := by
  induction n using Nat.strong_induction_on with
  | _ n ih =>
    rw [Nat.toDigits_eq_if (by decide)]
    split
    · next small =>
      simp [digitValue_digitChar small]
    · next large =>
      rw [foldl_digits_append, ih (n / 10) (Nat.div_lt_self (by omega) (by decide)),
        digitValue_digitChar (Nat.mod_lt n (by decide))]
      exact Nat.div_add_mod n 10

theorem isDigit_of_mem_mpzGetStr {n : Nat} {c : Char} (mem : c ∈ mpzGetStr n) : c.isDigit = true :=
  Nat.isDigit_of_mem_toDigits (by decide) (by decide) mem

theorem mpzSetStr_mpzGetStr (n : Nat) : mpzSetStr (mpzGetStr n) = some n := by
  have digits : (mpzGetStr n).all Char.isDigit = true :=
    List.all_eq_true.mpr fun c mem => isDigit_of_mem_mpzGetStr mem
  rw [mpzSetStr, if_pos ⟨Nat.toDigits_ne_nil, digits⟩]
  exact congrArg some (foldl_toDigits n)

end Digits

/-- What `selector` writes, `read_integer` reads back: the file holds one line, with no NUL,
and its digits parse to the counter. -/
theorem readInteger_mpzGetStr (n : Nat) (result : Option Nat) :
    readInteger (some (mpzGetStr n)) result = (1, some n) := by
  have noNewline : '\n' ∉ mpzGetStr n := fun mem =>
    digit_ne_newline (isDigit_of_mem_mpzGetStr mem) rfl
  have lastDigit : (mpzGetStr n).getLastD '\x00' ≠ '\x00' := by
    have nonempty : mpzGetStr n ≠ [] := Nat.toDigits_ne_nil
    rw [List.getLastD_eq_getLast?, List.getLast?_eq_some_getLast nonempty, Option.getD_some]
    exact digit_ne_nul (isDigit_of_mem_mpzGetStr (List.getLast_mem _))
  have noNul : cString (mpzGetStr n) = mpzGetStr n :=
    List.takeWhile_eq_self_iff.mpr fun c mem => by
      simpa using digit_ne_nul (isDigit_of_mem_mpzGetStr mem)
  simp only [readInteger, readLine, readLineLoop_eq, noNewline, if_false, List.nil_append, lastDigit,
    noNul, mpzSetStr_mpzGetStr]

end OrientLock
