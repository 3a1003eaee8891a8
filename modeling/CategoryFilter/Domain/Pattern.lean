/-
Domain patterns.

A pattern is a name, which stands for itself, or a wildcard: `*.` before a name that has a dot, which
stands for every name that ends with a dot and that name. `wildcards` lists the wildcards that cover a
name, longest first, and `covered` decides coverage with it. No rule looks at labels one by one, so
empty labels need no exception.
-/

namespace CategoryFilter.Domain

/-- The ends of a name that follow a dot, longest first. -/
def afterDots : List Char → List (List Char)
  | [] => []
  | c :: rest => if c = '.' then rest :: afterDots rest else afterDots rest

/-- The wildcard over an end of a name. -/
def wildcardOver (rest : List Char) : String :=
  String.ofList ('*' :: '.' :: rest)

/-- The wildcards that cover a name, longest first. -/
def wildcards (domain : String) : List String :=
  ((afterDots domain.toList).filter (·.contains '.')).map wildcardOver

/-- Whether a pattern has the form of a wildcard. -/
def isWildcard (pattern : String) : Bool :=
  ['*', '.'].isPrefixOf pattern.toList

/-- The name under a pattern: a wildcard without its leading `*.`, any other name itself. -/
def base (pattern : String) : String :=
  match pattern.toList with
  | '*' :: '.' :: rest => String.ofList rest
  | _ => pattern

/-- Whether a domain, or a narrower pattern, is covered by a pattern. -/
def covered (domain pattern : String) : Bool :=
  domain == pattern || (isWildcard pattern && (wildcards domain).contains pattern)

/-- What follows a dot in a name, with the name's beginning put back. -/
theorem mem_afterDots {rest cs : List Char} :
    rest ∈ afterDots cs ↔ ('.' :: rest) <:+ cs := by
  induction cs with
  | nil => simp [afterDots]
  | cons c cs ih =>
    rw [List.suffix_cons_iff]
    unfold afterDots
    split
    · next dot => subst dot; simp [ih]
    · next other =>
      rw [ih]
      simp only [List.cons.injEq]
      constructor
      · exact Or.inr
      · rintro (⟨same, -⟩ | found)
        · exact absurd same.symm other
        · exact found

/-- The listed wildcards are those over the dotted ends of the name. -/
theorem mem_wildcards {pattern domain : String} :
    pattern ∈ wildcards domain ↔
      ∃ rest, ('.' :: rest) <:+ domain.toList ∧ '.' ∈ rest ∧ pattern = wildcardOver rest := by
  simp only [wildcards, List.mem_map, List.mem_filter, mem_afterDots, List.contains_iff_mem]
  constructor
  · rintro ⟨rest, ⟨ends, dotted⟩, same⟩
    exact ⟨rest, ends, dotted, same.symm⟩
  · rintro ⟨rest, ends, dotted, same⟩
    exact ⟨rest, ⟨ends, dotted⟩, same.symm⟩

@[simp] theorem isWildcard_wildcardOver (rest : List Char) : isWildcard (wildcardOver rest) = true := by
  simp [isWildcard, wildcardOver, String.toList_ofList, List.isPrefixOf]

@[simp] theorem base_wildcardOver (rest : List Char) :
    base (wildcardOver rest) = String.ofList rest := by
  simp [base, wildcardOver, String.toList_ofList]

/-- Coverage is equality or one of the wildcards. -/
theorem covered_iff {domain pattern : String} :
    covered domain pattern = true ↔ domain = pattern ∨ pattern ∈ wildcards domain := by
  simp only [covered, Bool.or_eq_true, beq_iff_eq, Bool.and_eq_true, List.contains_iff_mem]
  constructor
  · rintro (same | ⟨-, listed⟩)
    · exact Or.inl same
    · exact Or.inr listed
  · rintro (same | listed)
    · exact Or.inl same
    · obtain ⟨rest, -, -, rfl⟩ := mem_wildcards.mp listed
      exact Or.inr ⟨isWildcard_wildcardOver rest, listed⟩

end CategoryFilter.Domain
