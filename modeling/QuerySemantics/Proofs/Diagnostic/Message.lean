import QuerySemantics.Diagnostic.Basic

/-!
# Telling messages apart

Two problems of one category may read the same. Some cannot, and these are told apart by how their
messages begin.

## Main definitions

* `Diagnostic.shown`: what a listing shows of a diagnostic.
* `Problem.isImposed`: the problems that an expression has because of what stands around it.

## Main results

* `Problem.isImposed_eq`: the category and the message decide whether a problem is imposed.
* `Problem.ordinal_eq`: the message about a column of a set operation says which column it is.
-/

set_option autoImplicit false

namespace QuerySemantics

/-- **What is shown** of a diagnostic: its place, its category and its message. -/
def Diagnostic.shown (diagnostic : Diagnostic) : Span × Category × String :=
  (diagnostic.span, diagnostic.category, diagnostic.message)

namespace Problem

/-! ## Imposed problems -/

/-- **Imposed problems** of an expression: those that it has as the condition of a `WHEN`, as the label
of a `CASE`, or as a position in an `ORDER BY`. -/
def isImposed : Problem → Bool
  | .conditionNotBoolean .when _ | .caseComparison _ _ | .orderByPosition _ _ => true
  | _ => false

/-- **How a message begins**, of a type or shape mismatch. That about a column name list begins with a
number. -/
def opening : Problem → String
  | .invalidCast _ _ => "cannot cast "
  | .operatorMismatch _ _ => "operator '"
  | .conditionNotBoolean place _ => place.keyword ++ " condition must be BOOLEAN, found "
  | .caseComparison _ _ => "CASE comparison has incompatible types "
  | .caseBranches _ _ => "CASE has incompatible types "
  | .noOverload _ _ _ => "no overload of "
  | .invalidLiteral _ | .invalidLimit _ => "'"
  | .setOperationCount _ _ => "both sides of a set operation must have the same number of columns ("
  | .subselectCount _ => "subquery must return exactly 1 column, found "
  | .setOperationTypes _ _ _ => "column "
  | .orderByPosition _ _ => "ORDER BY position "
  | _ => ""

/-- A text that begins with another one. -/
def Begins (opening text : String) : Prop :=
  ∃ rest, text = opening ++ rest

/-- A text with more behind it begins as before. -/
theorem Begins.append {opening text : String} (h : Begins opening text) (more : String) :
    Begins opening (text ++ more) := by
  obtain ⟨rest, rfl⟩ := h
  exact ⟨rest ++ more, String.append_assoc⟩

/-- A text begins with what was there before more was put behind it. -/
theorem Begins.self_append (opening more : String) : Begins opening (opening ++ more) :=
  ⟨more, rfl⟩

/-- Two texts that are the same begin alike. -/
theorem Begins.prefix_or_prefix {first second text : String} (h₁ : Begins first text)
    (h₂ : Begins second text) :
    first.toList.IsPrefix second.toList ∨ second.toList.IsPrefix first.toList := by
  obtain ⟨rest, rfl⟩ := h₁
  obtain ⟨rest', h⟩ := h₂
  have hletters := congrArg String.toList h
  rw [String.toList_append, String.toList_append] at hletters
  have hfirst : first.toList.IsPrefix (first.toList ++ rest.toList) := List.prefix_append _ _
  have hsecond : second.toList.IsPrefix (first.toList ++ rest.toList) :=
    hletters ▸ List.prefix_append _ _
  exact List.prefix_or_prefix_of_prefix hfirst hsecond

/-- A message of a problem of types or shapes begins with the opening of the problem. -/
theorem begins_opening (it : Problem) (h : ∀ names columns, it ≠ .columnNameCount names columns)
    (hcategory : it.category = .typeMismatch ∨ it.category = .shapeMismatch) :
    Begins it.opening it.message := by
  have hself := Begins.self_append
  cases it with
  | invalidCast => exact ((hself _ _).append _).append _
  | operatorMismatch => exact (((hself _ _).append _).append _).append _
  | conditionNotBoolean => exact hself _ _
  | caseComparison => exact ((hself _ _).append _).append _
  | caseBranches => exact ((hself _ _).append _).append _
  | noOverload => exact (((((hself _ _).append _).append _).append _).append _).append _
  | invalidLiteral => exact (hself _ _).append _
  | invalidLimit => exact (hself _ _).append _
  | setOperationCount => exact (((hself _ _).append _).append _).append _
  | subselectCount => exact hself _ _
  | setOperationTypes => exact ((((hself _ _).append _).append _).append _).append _
  | orderByPosition => exact (((hself _ _).append _).append _).append _
  | columnNameCount names columns => exact absurd rfl (h names columns)
  | _ => rcases hcategory with h | h <;> cases h

/-- A number consists of digits. -/
theorem isDigit_of_mem_toString {n : Nat} {digit : Char} (h : digit ∈ (toString n).toList) :
    digit.isDigit = true := by
  rw [Nat.toString_eq_repr, Nat.toList_repr] at h
  exact Nat.isDigit_of_mem_toDigits (by decide) (by decide) h

/-- A text that begins with a number begins with a digit, or goes on as it does behind the number. -/
theorem head?_number_append (n : Nat) (text : List Char) :
    ((toString n).toList ++ text).head? = text.head? ∨
      ∃ digit, ((toString n).toList ++ text).head? = some digit ∧ digit.isDigit = true := by
  cases hdigits : (toString n).toList with
  | nil => exact .inl rfl
  | cons digit rest =>
    exact .inr ⟨digit, rfl, isDigit_of_mem_toString (hdigits ▸ List.mem_cons_self)⟩

/-- A position in an `ORDER BY` does not read like a column name list. -/
theorem position_ne_count (position : Int) (columns names width : Nat) :
    (orderByPosition position columns).message ≠ (columnNameCount names width).message := by
  intro h
  obtain ⟨rest, hrest⟩ := begins_opening (orderByPosition position columns) nofun (.inr rfl)
  obtain ⟨rest', hrest'⟩ : Begins (toString names ++ " column names were given but the query produces ")
      (columnNameCount names width).message := (Begins.self_append _ _).append _
  rw [h, hrest', String.append_assoc] at hrest
  have hletters := congrArg (fun text : String => text.toList.head?) hrest
  rw [String.toList_append, String.toList_append, String.toList_append] at hletters
  have hspace : (" column names were given but the query produces ".toList ++ rest'.toList).head? =
      some ' ' := by
    rw [List.head?_append]
    rfl
  have hletter : ((orderByPosition position columns).opening.toList ++ rest.toList).head? =
      some 'O' := by
    rw [List.head?_append, opening]
    rfl
  rw [hletter] at hletters
  rcases head?_number_append names _ with heq | ⟨digit, heq, hdigit⟩
  · rw [heq, hspace] at hletters
    cases hletters
  · rw [heq] at hletters
    cases hletters
    cases hdigit

/-- How imposed problems begin. -/
def imposedOpenings : List String :=
  ["WHEN condition must be BOOLEAN, found ", "CASE comparison has incompatible types ",
    "ORDER BY position "]

/-- How the other type and shape mismatches begin, but for that about a column name list. -/
def ownOpenings : List String :=
  ["cannot cast ", "operator '", "WHERE condition must be BOOLEAN, found ",
    "HAVING condition must be BOOLEAN, found ", "ON condition must be BOOLEAN, found ",
    "CASE has incompatible types ", "no overload of ", "'",
    "both sides of a set operation must have the same number of columns (",
    "subquery must return exactly 1 column, found ", "column "]

/-- Imposed problems begin differently than others. -/
theorem not_prefix_of_openings : ∀ first ∈ imposedOpenings, ∀ second ∈ ownOpenings,
    ¬(first.toList.IsPrefix second.toList ∨ second.toList.IsPrefix first.toList) := by
  decide +kernel

/-- An imposed problem has an opening of imposed problems. -/
theorem opening_mem_imposed {it : Problem} (h : it.isImposed = true) :
    it.opening ∈ imposedOpenings := by
  unfold isImposed at h
  split at h
  · rw [opening, ConditionPlace.keyword]
    decide +kernel
  · rw [opening]
    decide +kernel
  · rw [opening]
    decide +kernel
  · cases h

/-- A mismatch that nothing imposes has an opening of such mismatches. -/
theorem opening_mem_own {it : Problem} (h : it.isImposed = false)
    (hcount : ∀ names columns, it ≠ .columnNameCount names columns)
    (hcategory : it.category = .typeMismatch ∨ it.category = .shapeMismatch) :
    it.opening ∈ ownOpenings := by
  cases it with
  | conditionNotBoolean place found =>
    cases place with
    | when => cases h
    | _ =>
      rw [opening, ConditionPlace.keyword]
      decide +kernel
  | caseComparison | orderByPosition => cases h
  | columnNameCount names columns => exact absurd rfl (hcount names columns)
  | unresolvedName | unresolvedColumn | unresolvedMember | ambiguousOverload | ambiguousReference =>
    rcases hcategory with h | h <;> cases h
  | _ =>
    rw [opening]
    decide +kernel

/-- Imposed problems are type and shape mismatches, and not about column name lists. -/
theorem category_of_isImposed {it : Problem} (h : it.isImposed = true) :
    (it.category = .typeMismatch ∨ it.category = .shapeMismatch) ∧
      ∀ names columns, it ≠ .columnNameCount names columns := by
  unfold isImposed at h
  split at h
  · exact ⟨.inl rfl, nofun⟩
  · exact ⟨.inl rfl, nofun⟩
  · exact ⟨.inr rfl, nofun⟩
  · cases h

/-- **A problem that is imposed does not read like one that is not.** -/
theorem message_ne_of_isImposed {it other : Problem} (hcategory : it.category = other.category)
    (himposed : it.isImposed = true) (hown : other.isImposed = false) :
    it.message ≠ other.message := by
  intro hmessage
  obtain ⟨hmismatch, hit⟩ := category_of_isImposed himposed
  by_cases hcount : ∃ names width, other = .columnNameCount names width
  · obtain ⟨names, width, rfl⟩ := hcount
    unfold isImposed at himposed
    split at himposed
    · cases hcategory
    · cases hcategory
    · exact position_ne_count _ _ _ _ hmessage
    · cases himposed
  · have hother : ∀ names width, other ≠ .columnNameCount names width :=
      fun names width heq => hcount ⟨names, width, heq⟩
    have hbegins := begins_opening it hit hmismatch
    have hbegins' := hmessage ▸ begins_opening other hother (hcategory ▸ hmismatch)
    exact not_prefix_of_openings _ (opening_mem_imposed himposed) _
      (opening_mem_own hown hother (hcategory ▸ hmismatch)) (hbegins.prefix_or_prefix hbegins')

/-- **What is shown of a problem decides whether it is imposed.** -/
theorem isImposed_eq {it other : Problem} (hcategory : it.category = other.category)
    (hmessage : it.message = other.message) : it.isImposed = other.isImposed := by
  cases himposed : it.isImposed <;> cases hother : other.isImposed
  · rfl
  · exact absurd hmessage.symm (message_ne_of_isImposed hcategory.symm hother himposed)
  · exact absurd hmessage (message_ne_of_isImposed hcategory himposed hother)
  · rfl

/-! ## Columns of a set operation -/

/-- Digits in front of a blank are known from the text. -/
theorem digits_eq {digits digits' rest rest' : List Char} (h : ∀ digit ∈ digits, digit.isDigit = true)
    (h' : ∀ digit ∈ digits', digit.isDigit = true) (heq : digits ++ ' ' :: rest = digits' ++ ' ' :: rest') :
    digits = digits' := by
  have htake : ∀ {digits rest : List Char}, (∀ digit ∈ digits, digit.isDigit = true) →
      (digits ++ ' ' :: rest).takeWhile Char.isDigit = digits := by
    intro digits rest hdigits
    rw [List.takeWhile_append_of_pos hdigits, List.takeWhile_cons_of_neg (by decide), List.append_nil]
  rw [← htake h, heq, htake h']

/-- **Which column** of a set operation a message is about. -/
theorem ordinal_eq {ordinal ordinal' : Nat} {left right left' right' : SqlType}
    (h : (setOperationTypes ordinal left right).message =
      (setOperationTypes ordinal' left' right').message) : ordinal = ordinal' := by
  have hmessage : ∀ (ordinal : Nat) (left right : SqlType),
      Begins ("column " ++ toString (ordinal + 1) ++ " of the set operation has incompatible types ")
        (setOperationTypes ordinal left right).message := fun _ _ _ =>
    ((Begins.self_append _ _).append _).append _
  obtain ⟨rest, hrest⟩ := hmessage ordinal left right
  obtain ⟨rest', hrest'⟩ := hmessage ordinal' left' right'
  rw [hrest, hrest'] at h
  have hletters := congrArg String.toList h
  simp only [String.toList_append, List.append_assoc] at hletters
  have hblank : ∀ rest : List Char,
      " of the set operation has incompatible types ".toList ++ rest =
        ' ' :: ("of the set operation has incompatible types ".toList ++ rest) := fun _ => rfl
  rw [hblank, hblank] at hletters
  have hdigits := digits_eq (fun _ => isDigit_of_mem_toString) (fun _ => isDigit_of_mem_toString)
    (List.append_cancel_left hletters)
  rw [Nat.toString_eq_repr, Nat.toString_eq_repr, Nat.toList_repr, Nat.toList_repr] at hdigits
  have hnumber := congrArg (fun digits => Nat.ofDigitChars 10 digits 0) hdigits
  simp only [Nat.ofDigitChars_toDigits (by decide : 1 < 10) (by decide)] at hnumber
  exact Nat.succ.inj hnumber

end Problem

end QuerySemantics
