import Vignette.Numeral
import Vignette.Proofs.Text.Cutting

namespace Vignette

/-! Numerals by their texts: what the digits of a whole number are worth, of which parts a literal
consists, and that a scan takes exactly a literal and reads what it stands for. -/

/-! ### Whole numbers in decimal -/

theorem digitsValue_snoc (cs : List Char) (c : Char) :
    digitsValue (cs ++ [c]) = 10 * digitsValue cs + (Text.digitValue? c).getD 0 := by
  simp [digitsValue]

theorem digitValue?_digitChar :
    ∀ digit < 10, Text.digitValue? (Nat.digitChar digit) = some digit := by
  decide

theorem digitsValue_decimal (n : Nat) : digitsValue (Nat.toDigits 10 n) = n := by
  induction n using Nat.strongRecOn with
  | ind n ih =>
      rw [Nat.toDigits_eq_if (by decide)]
      split
      · next single =>
          have digit := digitsValue_snoc [] (Nat.digitChar n)
          rw [digitValue?_digitChar n single] at digit
          exact digit.trans (Nat.zero_add n)
      · rw [digitsValue_snoc, digitValue?_digitChar (n % 10) (Nat.mod_lt n (by decide)),
          ih (n / 10) (by omega), Option.getD_some]
        omega

/-- What holds of the ten digits holds of every character of a number in decimal. -/
theorem decimal_forall {P : Char → Prop} (digits : ∀ digit < 10, P (Nat.digitChar digit)) (n : Nat) :
    ∀ c ∈ Nat.toDigits 10 n, P c := by
  induction n using Nat.strongRecOn with
  | ind n ih =>
      rw [Nat.toDigits_eq_if (by decide)]
      intro c member
      split at member
      · next single =>
          rw [List.mem_singleton.mp member]
          exact digits n single
      · rcases List.mem_append.mp member with before | last
        · exact ih (n / 10) (by omega) c before
        · rw [List.mem_singleton.mp last]
          exact digits (n % 10) (Nat.mod_lt n (by decide))

/-! ### The parts of a numeral -/

inductive IsSign : List Char → Prop
  | absent : IsSign []
  | plus : IsSign ['+']
  | minus : IsSign ['-']

def AllDigits (text : List Char) : Prop := ∀ c ∈ text, Text.isDigit c = true

inductive IsFraction : List Char → Prop
  | absent : IsFraction []
  | point {digits : List Char} (all : AllDigits digits) : IsFraction ('.' :: digits)

/-- A sign, digits and a fraction, of which any may be absent. There is at least one digit. -/
structure IsMantissa (text : List Char) : Prop where
  made : ∃ sign whole fraction, text = sign ++ whole ++ fraction ∧ IsSign sign ∧
    AllDigits whole ∧ IsFraction fraction
  digit : ∃ c ∈ text, Text.isDigit c = true

/-- The letter of an exponent with the power behind it. -/
inductive IsExponent : List Char → Prop
  | mk {letter : Char} {sign digits : List Char} (mark : letter = 'e' ∨ letter = 'E')
    (signed : IsSign sign) (all : AllDigits digits) (nonempty : digits ≠ []) :
    IsExponent (letter :: (sign ++ digits))

theorem AllDigits.not_sign {digits : List Char} (all : AllDigits digits) :
    ∀ c, digits.head? = some c → c ≠ '-' ∧ c ≠ '+' := by
  intro c found
  have digit := all c (List.mem_of_head? found)
  constructor
  all_goals
    rintro rfl
    contradiction

/-- The worth of digits that a sign may precede. -/
def signedValue : List Char → Int
  | '-' :: digits => -(digitsValue digits : Int)
  | '+' :: digits => digitsValue digits
  | digits => digitsValue digits

theorem signedValue_append {sign digits : List Char} (signed : IsSign sign)
    (all : AllDigits digits) :
    signedValue (sign ++ digits) =
      if sign == ['-'] then -(digitsValue digits : Int) else digitsValue digits := by
  cases signed with
  | minus => rfl
  | plus => rfl
  | absent =>
      rw [List.nil_append]
      unfold signedValue
      split
      · exact absurd rfl (all.not_sign '-' rfl).1
      · exact absurd rfl (all.not_sign '+' rfl).2
      · rfl

/-- A number as texts write it: the sign, the digits in front of the point, the point with those
behind it, and the exponent. -/
structure Literal where
  sign : List Char
  whole : List Char
  fraction : List Char
  exponent : List Char
  signed : IsSign sign
  all : AllDigits whole
  pointed : IsFraction fraction
  powered : exponent = [] ∨ IsExponent exponent
  digit : whole ≠ [] ∨ fraction.tail ≠ []

namespace Literal

def text (literal : Literal) : List Char :=
  literal.sign ++ (literal.whole ++ (literal.fraction ++ literal.exponent))

/-- The digits behind the point. -/
def places (literal : Literal) : List Char := literal.fraction.tail

/-- What a literal stands for: the digits are one whole number, of which the exponent and the place
of the point give the power of ten. -/
def numeral (literal : Literal) : Numeral where
  negative := literal.sign == ['-']
  digits := digitsValue (literal.whole ++ literal.places)
  power := signedValue literal.exponent.tail - literal.places.length

end Literal

/-! ### What a scan leaves behind -/

section Parts

theorem allDigits_takeWhile (text : List Char) : AllDigits (text.takeWhile Text.isDigit) :=
  List.all_eq_true.mp List.all_takeWhile

theorem takeSign_parts (text : List Char) :
    ∃ sign rest, IsSign sign ∧ text = sign ++ rest ∧ takeSign text = (sign == ['-'], rest) := by
  unfold takeSign
  split
  · exact ⟨['-'], _, .minus, rfl, rfl⟩
  · exact ⟨['+'], _, .plus, rfl, rfl⟩
  · exact ⟨[], _, .absent, rfl, rfl⟩

theorem takeFraction_parts (text : List Char) :
    ∃ fraction rest, IsFraction fraction ∧ text = fraction ++ rest ∧
      takeFraction text = (fraction.tail, rest) := by
  unfold takeFraction
  split
  · next behind =>
      refine ⟨'.' :: behind.takeWhile Text.isDigit, _, .point (allDigits_takeWhile behind), ?_, rfl⟩
      rw [List.cons_append, List.takeWhile_append_dropWhile]
  · exact ⟨[], _, .absent, rfl, rfl⟩

theorem takeExponent_parts (text : List Char) :
    ∃ exponent rest, (exponent = [] ∨ IsExponent exponent) ∧ text = exponent ++ rest ∧
      takeExponent text = (signedValue exponent.tail, rest) := by
  cases text with
  | nil => exact ⟨[], [], .inl rfl, rfl, rfl⟩
  | cons letter behind =>
      rw [takeExponent]
      split
      · next mark =>
          obtain ⟨sign, unsigned, signed, rfl, taken⟩ := takeSign_parts behind
          rw [taken]
          dsimp only
          split
          · exact ⟨[], _, .inl rfl, rfl, rfl⟩
          · next filled =>
              have nonempty : unsigned.takeWhile Text.isDigit ≠ [] := by simpa using filled
              have all := allDigits_takeWhile unsigned
              refine ⟨letter :: (sign ++ unsigned.takeWhile Text.isDigit),
                unsigned.dropWhile Text.isDigit, .inr (.mk mark signed all nonempty), ?_, ?_⟩
              · rw [List.cons_append, List.append_assoc, List.takeWhile_append_dropWhile]
              · rw [List.tail_cons, signedValue_append signed all]
      · exact ⟨[], _, .inl rfl, rfl, rfl⟩

theorem takeSign_append {sign rest : List Char} (signed : IsSign sign)
    (unsigned : ∀ c, rest.head? = some c → c ≠ '-' ∧ c ≠ '+') :
    takeSign (sign ++ rest) = (sign == ['-'], rest) := by
  cases signed with
  | minus => rfl
  | plus => rfl
  | absent =>
      rw [List.nil_append]
      unfold takeSign
      split
      · exact absurd rfl (unsigned '-' rfl).1
      · exact absurd rfl (unsigned '+' rfl).2
      · rfl

theorem takeFraction_append {fraction rest : List Char} (pointed : IsFraction fraction)
    (stops : ∀ c, rest.head? = some c → Text.isDigit c = false ∧ c ≠ '.') :
    takeFraction (fraction ++ rest) = (fraction.tail, rest) := by
  have last : ∀ c, rest.head? = some c → Text.isDigit c = false := fun c found => (stops c found).1
  cases pointed with
  | point all =>
      rw [List.cons_append, takeFraction, Text.takeWhile_front all last,
        Text.dropWhile_front all last]
      rfl
  | absent =>
      rw [List.nil_append]
      unfold takeFraction
      split
      · exact absurd rfl (stops '.' rfl).2
      · rfl

theorem head_fraction {fraction rest : List Char} (pointed : IsFraction fraction)
    (stops : ∀ c, rest.head? = some c → Text.isDigit c = false) :
    ∀ c, (fraction ++ rest).head? = some c → Text.isDigit c = false := by
  cases pointed with
  | absent => exact stops
  | point all =>
      intro c found
      obtain rfl := Option.some.inj found
      decide

theorem head_exponent {exponent rest : List Char} (powered : exponent = [] ∨ IsExponent exponent)
    (stops : ∀ c, rest.head? = some c → Text.isDigit c = false ∧ c ≠ '.') :
    ∀ c, (exponent ++ rest).head? = some c → Text.isDigit c = false ∧ c ≠ '.' := by
  rcases powered with rfl | powered
  · exact stops
  · obtain ⟨mark, _, _, _⟩ := powered
    intro c found
    obtain rfl := Option.some.inj found
    rcases mark with rfl | rfl
    all_goals decide

theorem takeExponent_of_digitless {text : List Char}
    (digitless : ∀ c ∈ text, Text.isDigit c = false) : takeExponent text = (0, text) := by
  obtain ⟨exponent, rest, powered, same, taken⟩ := takeExponent_parts text
  rcases powered with rfl | powered
  · rw [taken, same]
    rfl
  · obtain ⟨mark, signed, all, nonempty⟩ := powered
    obtain ⟨d, member⟩ := List.exists_mem_of_ne_nil _ nonempty
    have none := digitless d (by simp [same, member])
    rw [all d member] at none
    contradiction

theorem takeExponent_append {exponent rest : List Char}
    (powered : exponent = [] ∨ IsExponent exponent)
    (digitless : ∀ c ∈ rest, Text.isDigit c = false) :
    takeExponent (exponent ++ rest) = (signedValue exponent.tail, rest) := by
  rcases powered with rfl | powered
  · exact takeExponent_of_digitless digitless
  · obtain ⟨mark, signed, all, nonempty⟩ := powered
    have last : ∀ c, rest.head? = some c → Text.isDigit c = false := fun c found =>
      digitless c (List.mem_of_head? found)
    rw [List.cons_append, takeExponent, if_pos mark, List.append_assoc, takeSign_append signed]
    · dsimp only
      rw [Text.takeWhile_front all last, Text.dropWhile_front all last,
        if_neg (by simpa using nonempty), List.tail_cons, signedValue_append signed all]
    · intro c found
      obtain ⟨first, more, rfl⟩ := List.exists_cons_of_ne_nil nonempty
      exact all.not_sign c found

end Parts

namespace Literal

variable (literal : Literal)

theorem takeSign_text (rest : List Char) :
    takeSign (literal.text ++ rest) =
      (literal.sign == ['-'],
        literal.whole ++ (literal.fraction ++ (literal.exponent ++ rest))) := by
  obtain ⟨sign, whole, fraction, exponent, signed, all, pointed, _, digit⟩ := literal
  have placed : text ⟨sign, whole, fraction, exponent, signed, all, pointed, ‹_›, digit⟩ ++ rest =
      sign ++ (whole ++ (fraction ++ (exponent ++ rest))) := by
    simp [text]
  rw [placed, takeSign_append signed]
  cases whole with
  | cons first more => exact all.not_sign
  | nil =>
      -- Without a digit in front of it the point comes first.
      cases pointed with
      | absent => simp at digit
      | point all =>
          intro c found
          obtain rfl := Option.some.inj found
          decide

/-- A literal is scanned as a whole and as what it stands for, if no digit or point follows. -/
theorem scan?_text {rest : List Char} (ends : ∀ c ∈ rest, Text.isDigit c = false ∧ c ≠ '.') :
    Numeral.scan? (literal.text ++ rest) = some (literal.numeral, rest) := by
  have exponentStops := head_exponent literal.powered fun c (found : rest.head? = some c) =>
    ends c (List.mem_of_head? found)
  have wholeStops := head_fraction literal.pointed fun c found => (exponentStops c found).1
  rw [Numeral.scan?, literal.takeSign_text]
  dsimp only
  rw [Text.takeWhile_front literal.all wholeStops, Text.dropWhile_front literal.all wholeStops,
    takeFraction_append literal.pointed exponentStops]
  dsimp only
  have digit : ¬ (literal.whole.isEmpty && literal.fraction.tail.isEmpty) = true := by
    rw [Bool.and_eq_true, List.isEmpty_iff, List.isEmpty_iff, Decidable.not_and_iff_or_not]
    exact literal.digit
  rw [if_neg digit, takeExponent_append literal.powered fun c member => (ends c member).1]
  rfl

theorem exists_digit : ∃ c ∈ literal.whole ++ literal.fraction, Text.isDigit c = true := by
  rcases literal.digit with before | behind
  · obtain ⟨c, member⟩ := List.exists_mem_of_ne_nil _ before
    exact ⟨c, List.mem_append_left _ member, literal.all c member⟩
  · obtain ⟨c, member⟩ := List.exists_mem_of_ne_nil _ behind
    refine ⟨c, List.mem_append_right _ (List.mem_of_mem_tail member), ?_⟩
    have pointed := literal.pointed
    generalize literal.fraction = fraction at pointed member
    cases pointed with
    | absent => simp at member
    | point all => exact all c member

theorem read?_text : Numeral.read? literal.text = some literal.numeral := by
  have scanned := literal.scan?_text (List.forall_mem_nil _)
  rw [List.append_nil] at scanned
  rw [Numeral.read?, scanned]

end Literal

namespace Numeral

/-- What a numeral takes of a text is a literal. -/
theorem literal_of_scan {text behind : List Char} {numeral : Numeral}
    (scanned : scan? text = some (numeral, behind)) :
    ∃ literal : Literal, text = literal.text ++ behind ∧ literal.numeral = numeral := by
  obtain ⟨sign, unsigned, signed, same, taken⟩ := takeSign_parts text
  obtain ⟨fraction, rest, pointed, split, cut⟩ :=
    takeFraction_parts (unsigned.dropWhile Text.isDigit)
  obtain ⟨exponent, ending, powered, parted, power⟩ := takeExponent_parts rest
  rw [scan?, taken] at scanned
  dsimp only at scanned
  rw [cut, power] at scanned
  dsimp only at scanned
  split at scanned
  · contradiction
  · next digits =>
      rw [Bool.and_eq_true, List.isEmpty_iff, List.isEmpty_iff,
        Decidable.not_and_iff_or_not] at digits
      obtain ⟨rfl, rfl⟩ := Prod.mk.inj (Option.some.inj scanned)
      refine ⟨⟨sign, _, fraction, exponent, signed, allDigits_takeWhile unsigned, pointed, powered,
        digits⟩, ?_, rfl⟩
      have whole : unsigned =
          unsigned.takeWhile Text.isDigit ++ (fraction ++ (exponent ++ ending)) := by
        rw [← parted, ← split, List.takeWhile_append_dropWhile]
      rw [same, Literal.text, List.append_assoc, List.append_assoc, List.append_assoc, ← whole]

theorem literal_of_read {text : List Char} {numeral : Numeral}
    (read : read? text = some numeral) :
    ∃ literal : Literal, text = literal.text ∧ literal.numeral = numeral := by
  unfold read? at read
  split at read
  · next scanned =>
      obtain rfl := Option.some.inj read
      obtain ⟨literal, same, value⟩ := literal_of_scan scanned
      exact ⟨literal, same.trans (List.append_nil _), value⟩
  · contradiction

theorem isMantissa_of_literal (literal : Literal) :
    IsMantissa (literal.sign ++ literal.whole ++ literal.fraction) := by
  obtain ⟨c, member, digit⟩ := literal.exists_digit
  refine ⟨⟨_, _, _, rfl, literal.signed, literal.all, literal.pointed⟩, c, ?_, digit⟩
  rw [List.append_assoc]
  exact List.mem_append_right _ member

theorem parts_of_read {text : List Char} {numeral : Numeral} (read : read? text = some numeral) :
    ∃ mantissa exponent, text = mantissa ++ exponent ∧ IsMantissa mantissa ∧
      (exponent = [] ∨ IsExponent exponent) := by
  obtain ⟨literal, rfl, _⟩ := literal_of_read read
  exact ⟨_, literal.exponent, by simp [Literal.text], isMantissa_of_literal literal,
    literal.powered⟩

end Numeral

end Vignette
