import GeneratedKeys.Proofs.Nesting

/-!
# The grammar of statements

The forms of statement, given as lists of tokens and without regard to how they are read. A
statement is a head and a body. The head is fixed up to the names in it; of the body nothing is
asked but that its parentheses balance, together with one that the head may have left open, and
that a semicolon outside them is the last token.
-/
namespace GeneratedKeys.Statement

/-- A token of some kind comes first. -/
def StartsWith (k : Token.Kind) (ts : List Token) : Prop :=
  ∃ t rest, ts = t :: rest ∧ t.kind = k

/-- A name is one identifier, or two with a dot between them. -/
inductive IsName : Option Text → Text → List Token → Prop
  | plain {t : Token} : t.kind.isIdentifier = true → IsName none t.raw [t]
  | qualified {s d t : Token} : s.kind.isIdentifier = true → d.kind = .dot →
      t.kind.isIdentifier = true → IsName (some s.raw) t.raw [s, d, t]

/-- Identifiers with commas between them. -/
inductive IsNames : List Token → Prop
  | one {t : Token} : t.kind.isIdentifier = true → IsNames [t]
  | more {t c : Token} {ts : List Token} : t.kind.isIdentifier = true → c.kind = .comma →
      IsNames ts → IsNames (t :: c :: ts)

/-- A column list, which may be missing. -/
inductive IsColumns : List Token → Prop
  | none : IsColumns []
  | listed {o c : Token} {ts : List Token} : o.kind = .leftParen → IsNames ts →
      c.kind = .rightParen → IsColumns (o :: (ts ++ [c]))

/-- An alias, which may be missing, as may the word in front of it. -/
inductive IsAlias : List Token → Prop
  | none : IsAlias []
  | plain {t : Token} : t.kind.isIdentifier = true → IsAlias [t]
  | marked {a t : Token} : a.kind = .keyword .AS → t.kind.isIdentifier = true → IsAlias [a, t]

/-- A body in front of which `depth` parentheses are open. -/
structure IsBody (depth : Nat) (ts : List Token) : Prop where
  nested : ∀ before after, ts = before ++ after → closing before ≤ depth + opening before
  balanced : closing ts = depth + opening ts
  single : ∀ before t after, ts = before ++ t :: after → t.kind = .semicolon →
    closing before = depth + opening before → after = []

/-- No token is a malformed piece of text. -/
def IsClean (ts : List Token) : Prop :=
  ∀ t ∈ ts, ∀ m, t.kind ≠ .malformed m

/-- The heads of statements, by the form of the statement, the schema and the table named, the
number of parentheses left open and what follows. A dot behind the first identifier of a name goes
on with the name, and AS behind the name starts an alias, so neither can start the body there. -/
inductive Head : Kind → Option Text → Text → Nat → List Token → List Token → Prop
  | values {schema : Option Text} {table : Text} {into name columns rows body : List Token} :
      into.map Token.kind = [.keyword .INSERT, .keyword .INTO] → IsName schema table name →
      IsColumns columns → rows.map Token.kind = [.keyword .VALUES, .leftParen] →
      Head .insert schema table 1 (into ++ name ++ columns ++ rows) body
  | defaults {schema : Option Text} {table : Text} {into name columns rows body : List Token} :
      into.map Token.kind = [.keyword .INSERT, .keyword .INTO] → IsName schema table name →
      IsColumns columns → rows.map Token.kind = [.keyword .DEFAULT, .keyword .VALUES] →
      Head .insert schema table 0 (into ++ name ++ columns ++ rows) body
  | query {schema : Option Text} {table : Text} {into name columns body : List Token} :
      into.map Token.kind = [.keyword .INSERT, .keyword .INTO] → IsName schema table name →
      IsColumns columns → StartsWith (.keyword .SELECT) body ∨ StartsWith (.keyword .WITH) body →
      Head .insert schema table 0 (into ++ name ++ columns) body
  | updateOrInsert {schema : Option Text} {table : Text}
      {into name columns rows body : List Token} :
      into.map Token.kind =
        [.keyword .UPDATE, .keyword .OR, .keyword .INSERT, .keyword .INTO] →
      IsName schema table name → IsColumns columns →
      rows.map Token.kind = [.keyword .VALUES, .leftParen] →
      Head .updateOrInsert schema table 1 (into ++ name ++ columns ++ rows) body
  | update {schema qualifier : Option Text} {table column : Text}
      {update name byname set assigned eq body : List Token} :
      update.map Token.kind = [.keyword .UPDATE] → IsName schema table name → IsAlias byname →
      set.map Token.kind = [.keyword .SET] → IsName qualifier column assigned →
      eq.map Token.kind = [.eq] →
      Head .update schema table 0 (update ++ name ++ byname ++ set ++ assigned ++ eq) body
  | delete {schema : Option Text} {table : Text} {from_ name byname body : List Token} :
      from_.map Token.kind = [.keyword .DELETE, .keyword .FROM] → IsName schema table name →
      IsAlias byname → (schema = none → ¬ StartsWith .dot (byname ++ body)) →
      (byname = [] → ¬ StartsWith (.keyword .AS) body) →
      Head .delete schema table 0 (from_ ++ name ++ byname) body

/-- Tokens that make up a statement of some form, on a table that they name. -/
def IsStatement (kind : Kind) (schema : Option Text) (table : Text) (ts : List Token) : Prop :=
  ∃ depth head body, ts = head ++ body ∧ Head kind schema table depth head body ∧
    IsBody depth body

/-! ### Token by token -/

theorem not_startsWith_nil (k : Token.Kind) : ¬ StartsWith k [] := by
  simp [StartsWith]

@[simp] theorem startsWith_cons {k : Token.Kind} {t : Token} {ts : List Token} :
    StartsWith k (t :: ts) ↔ t.kind = k := by
  simp [StartsWith]

@[simp] theorem isClean_nil : IsClean [] := by
  simp [IsClean]

@[simp] theorem isClean_cons {t : Token} {ts : List Token} :
    IsClean (t :: ts) ↔ (∀ m, t.kind ≠ .malformed m) ∧ IsClean ts := by
  simp [IsClean]

@[simp] theorem isClean_append {ts us : List Token} :
    IsClean (ts ++ us) ↔ IsClean ts ∧ IsClean us := by
  simp only [IsClean, List.mem_append, or_imp, forall_and]

theorem isBody_nil {depth : Nat} : IsBody depth [] ↔ depth = 0 := by
  constructor
  · intro h
    simpa using h.balanced.symm
  · intro hyp
    subst hyp
    refine ⟨?_, by simp, by simp⟩
    intro before after h
    simp [(List.append_eq_nil_iff.1 h.symm).1]

/-- A body goes on behind its first token at the depth that the token leaves. -/
theorem isBody_cons {d e : Nat} {t : Token} {ts : List Token}
    (h : e + closing [t] = d + opening [t]) :
    IsBody d (t :: ts) ↔ IsBody e ts ∧ (t.kind = .semicolon → d = 0 → ts = []) := by
  simp only [closing_cons, opening_cons, closing_nil, opening_nil] at h
  constructor
  · intro hb
    refine ⟨⟨?_, ?_, ?_⟩, ?_⟩
    · intro before after hyp
      subst hyp
      have hn := hb.nested (t :: before) after rfl
      simp only [closing_cons, opening_cons] at hn
      omega
    · have hn := hb.balanced
      simp only [closing_cons, opening_cons] at hn
      omega
    · intro before u after hyp hk hc
      subst hyp
      refine hb.single (t :: before) u after rfl hk ?_
      simp only [closing_cons, opening_cons]
      omega
    · intro hk hyp
      subst hyp
      exact hb.single [] t ts rfl hk rfl
  · intro hyp
    obtain ⟨hb, hs⟩ := hyp
    refine ⟨?_, ?_, ?_⟩
    · intro before after he
      cases before with
      | nil => simp
      | cons u before =>
        simp only [List.cons_append, List.cons.injEq] at he
        obtain ⟨rfl, rfl⟩ := he
        have hn := hb.nested before after rfl
        simp only [closing_cons, opening_cons]
        omega
    · have hn := hb.balanced
      simp only [closing_cons, opening_cons]
      omega
    · intro before u after he hk hc
      cases before with
      | nil =>
        simp only [List.nil_append, List.cons.injEq] at he
        obtain ⟨rfl, rfl⟩ := he
        exact hs hk (by simpa using hc.symm)
      | cons v before =>
        simp only [List.cons_append, List.cons.injEq] at he
        obtain ⟨rfl, rfl⟩ := he
        simp only [closing_cons, opening_cons] at hc
        exact hb.single before u after rfl hk (by omega)

/-- A body does not close what has not been opened. -/
theorem not_isBody_rightParen {t : Token} {ts : List Token} (hk : t.kind = .rightParen) :
    ¬ IsBody 0 (t :: ts) := by
  intro h
  have hn := h.nested [t] ts rfl
  simp [hk] at hn

end GeneratedKeys.Statement
