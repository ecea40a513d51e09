import StatementTables.Proofs.Formula.Tokens
import StatementTables.Proofs.Text.Trimming
import StatementTables.Formula.Parser

/-! # Normalized formulas

Normalization and reading both take the equality signs off the front of a formula, and neither looks
at white space there (`parse_eq`, `normalize?_eq`).  They do so once: where white space parts the
equality signs, normalization leaves a second sign in front, which reading the result then drops
but reading the formula itself refuses.  Where nothing parts the signs, a normalized formula has a
single one, is final, and reads as before (`normalize_faithful_iff`). -/

namespace StatementTables.Formula

open Text

/-- What is left of a formula without the equality signs at its front and white space. -/
def body (formula : String) : List Char :=
  trimChars (dropEquals (trimChars formula.toList))

/-- One equality sign, and no other right after it. -/
def SingleSign (formula : String) : Prop :=
  ∃ cs, formula.toList = '=' :: cs ∧ cs.head? ≠ some '='

/-- Equality signs at the front of a formula, then white space, then another equality sign. -/
def PartedSigns (formula : String) : Prop :=
  ∃ front signs gap rest, formula.toList = front ++ signs ++ gap ++ '=' :: rest ∧
    Blank front ∧ (∀ c ∈ signs, c = '=') ∧ signs ≠ [] ∧ Blank gap ∧ gap ≠ []

/-! ### What is read and what is kept -/

theorem tokenize_blank_append {front : List Char} (h : Blank front) (cs : List Char) :
    tokenize (front ++ cs) = tokenize cs := by
  induction front with
  | nil => rfl
  | cons c front ih =>
      have hlexeme := lexeme_space (h c List.mem_cons_self) (front ++ cs)
      rw [List.cons_append, tokenize_cons hlexeme, ih fun d hd => h d (List.mem_cons_of_mem c hd)]
      cases tokenize cs <;> rfl

theorem tokenize_equals (cs : List Char) :
    tokenize ('=' :: cs) = .error (.unexpectedCharacter '=') := by
  rw [tokenize.eq_def]
  dsimp only
  split
  · rename_i heq
    rw [lexeme_equals] at heq
    cases heq
    rfl
  · rename_i heq
    rw [lexeme_equals] at heq
    cases heq

/-- White space around what the first equality signs leave makes no difference. -/
theorem parse_eq (formula : String) : parse formula = tokenize (body formula) >>= parseTokens := by
  have hend : Stops isSpace (dropEquals (trimChars formula.toList)).reverse := by
    refine Stops.left (b := ((trimChars formula.toList).takeWhile (· = '=')).reverse) ?_
    rw [← List.reverse_append]
    unfold dropEquals
    rw [List.takeWhile_append_dropWhile]
    exact stops_reverse_trimChars formula.toList
  have htrim : body formula = trimStart (dropEquals (trimChars formula.toList)) :=
    trimChars_eq_trimStart hend
  unfold parse
  rw [htrim, ← tokenize_blank_append (fun c hc => List.mem_takeWhile_imp hc)
    (trimStart (dropEquals (trimChars formula.toList)))]
  unfold trimStart
  rw [List.takeWhile_append_dropWhile]

theorem normalize?_eq (formula : String) :
    normalize? formula =
      if body formula = [] then none else some (.ofList ('=' :: body formula)) := by
  show (if (body formula).isEmpty then none else _) = _
  simp only [List.isEmpty_iff]
  rfl

/-! ### Parted signs -/

/-- What is left of a formula with parted signs starts with the next of them. -/
theorem PartedSigns.body_head {formula : String} (h : PartedSigns formula) :
    (body formula).head? = some '=' := by
  obtain ⟨front, signs, gap, rest, hformula, hfront, hsigns, hne, hgap, hgapne⟩ := h
  obtain ⟨sign, signs', rfl⟩ := List.exists_cons_of_ne_nil hne
  obtain ⟨space, gap', rfl⟩ := List.exists_cons_of_ne_nil hgapne
  have hsign : sign = '=' := hsigns sign List.mem_cons_self
  have hspace : isSpace space = true := hgap space List.mem_cons_self
  have htrim : trimChars formula.toList =
      (sign :: signs') ++ ((space :: gap') ++ '=' :: trimEnd rest) := by
    rw [hformula, List.append_assoc, List.append_assoc, trimChars_blank_append hfront]
    unfold trimChars trimStart
    rw [List.cons_append, List.dropWhile_cons_of_neg (by rw [hsign]; decide), ← List.cons_append,
      ← List.append_assoc, trimEnd_append_cons (by decide), List.append_assoc]
  have hstops : Stops (· = '=') ((space :: gap') ++ '=' :: trimEnd rest) := by
    refine stops_cons.mpr (decide_eq_false ?_)
    rintro rfl
    exact absurd hspace (by decide)
  have hdrop : dropEquals (trimChars formula.toList) = (space :: gap') ++ '=' :: trimEnd rest := by
    rw [htrim]
    exact dropWhile_append_of_stops (fun c hc => decide_eq_true (hsigns c hc)) hstops
  unfold body
  rw [hdrop, trimChars_blank_append hgap]
  unfold trimChars trimStart
  rw [List.dropWhile_cons_of_neg (by decide), ← List.nil_append ('=' :: trimEnd rest),
    trimEnd_append_cons (by decide)]
  rfl

theorem partedSigns_of_body_head {formula : String} (h : (body formula).head? = some '=') :
    PartedSigns formula := by
  obtain ⟨rest, hbody⟩ : ∃ rest, body formula = '=' :: rest := List.head?_eq_some_iff.mp h
  obtain ⟨front, back, hfront, -, hformula⟩ := exists_trim formula.toList
  obtain ⟨gap, after, hgap, -, hdropped⟩ := exists_trim (dropEquals (trimChars formula.toList))
  have hrest : dropEquals (trimChars formula.toList) = gap ++ '=' :: rest ++ after := by
    rw [hdropped, ← hbody]
    rfl
  have hstops : Stops (· = '=') (gap ++ '=' :: rest ++ after) := hrest ▸ stops_dropWhile _ _
  obtain ⟨signs, hsigns, hequals⟩ : ∃ signs, trimChars formula.toList =
      signs ++ (gap ++ '=' :: rest ++ after) ∧ ∀ c ∈ signs, c = '=' := by
    refine ⟨(trimChars formula.toList).takeWhile (· = '='), ?_, fun c hc => ?_⟩
    · rw [← hrest]
      exact List.takeWhile_append_dropWhile.symm
    · exact of_decide_eq_true (List.mem_takeWhile_imp (p := (· = '=')) hc)
  have hgapne : gap ≠ [] := by
    rintro rfl
    exact absurd (stops_cons.mp hstops) (by decide)
  have hsignsne : signs ≠ [] := by
    rintro rfl
    obtain ⟨space, gap', rfl⟩ := List.exists_cons_of_ne_nil hgapne
    have hstart : Stops isSpace (trimChars formula.toList) := stops_trimChars formula.toList
    rw [hsigns] at hstart
    have hspace : isSpace space = false := stops_cons.mp hstart
    rw [hgap space List.mem_cons_self] at hspace
    cases hspace
  refine ⟨front, signs, gap, rest ++ after ++ back, ?_, hfront, hequals, hsignsne, hgap, hgapne⟩
  rw [hformula, hsigns]
  simp

theorem partedSigns_iff {formula : String} :
    PartedSigns formula ↔ (body formula).head? = some '=' :=
  ⟨PartedSigns.body_head, partedSigns_of_body_head⟩

/-! ### Normalized formulas -/

section normalized
variable {formula : String} (hbody : body formula ≠ [])
include hbody

theorem body_normalized :
    body (.ofList ('=' :: body formula)) = trimChars (dropEquals (body formula)) := by
  have hend : Stops isSpace ('=' :: body formula).reverse := by
    obtain ⟨c, cs, hrev⟩ := List.exists_cons_of_ne_nil (mt List.reverse_eq_nil_iff.mp hbody)
    have hstops : Stops isSpace (body formula).reverse := stops_reverse_trimChars _
    rw [hrev] at hstops
    rw [List.reverse_cons, hrev]
    exact stops_cons.mpr (stops_cons.mp hstops)
  rw [body.eq_def (.ofList _), String.toList_ofList,
    trimChars_eq_self (stops_cons.mpr (by decide)) hend]
  unfold dropEquals
  rw [List.dropWhile_cons_of_pos (by decide)]

/-- A body is what is left of the normalized formula unless another sign is taken off. -/
theorem body_normalized_eq_iff :
    body (.ofList ('=' :: body formula)) = body formula ↔ (body formula).head? ≠ some '=' := by
  rw [body_normalized hbody]
  constructor
  · intro heq hhead
    obtain ⟨rest, hrest⟩ := List.head?_eq_some_iff.mp hhead
    have hlength := (trimChars_sublist (dropEquals (body formula))).length_le
    have hdropped : (dropEquals (body formula)).length ≤ rest.length := by
      unfold dropEquals
      rw [hrest, List.dropWhile_cons_of_pos (by decide)]
      exact (List.dropWhile_sublist _).length_le
    rw [heq, hrest, List.length_cons] at hlength
    rw [hrest] at hdropped
    omega
  · intro hhead
    have hstops : Stops (· = '=') (body formula) := by
      intro c hc
      refine decide_eq_false ?_
      rintro rfl
      exact hhead hc
    unfold dropEquals
    rw [dropWhile_eq_self_of_stops hstops]
    exact trimChars_trimChars _

theorem normalize?_normalized_eq_iff :
    normalize? (.ofList ('=' :: body formula)) = some (.ofList ('=' :: body formula)) ↔
      (body formula).head? ≠ some '=' := by
  rw [← body_normalized_eq_iff hbody, normalize?_eq]
  split
  · rename_i hnil
    rw [hnil]
    exact ⟨nofun, fun h => absurd h.symm hbody⟩
  · rw [Option.some_inj, String.ofList_inj, List.cons_inj_right]

end normalized

/-- **What normalization keeps.**  A formula that normalizes to nothing reads as empty.  Any other
normalizes to a formula with a single equality sign, and to a final one, exactly if no white space
parts its equality signs; it then reads the same before and after.  If its signs are parted it does
not read at all, whatever is made of it. -/
theorem normalize_faithful_iff (formula : String) :
    match normalize? formula with
    | none => parse formula = .error .empty
    | some normalized =>
        (SingleSign normalized ↔ ¬ PartedSigns formula) ∧
        (normalize? normalized = some normalized ↔ ¬ PartedSigns formula) ∧
        (¬ PartedSigns formula → parse normalized = parse formula) ∧
        (PartedSigns formula → parse formula = .error (.unexpectedCharacter '=')) := by
  rw [normalize?_eq, partedSigns_iff]
  by_cases hbody : body formula = []
  · rw [if_pos hbody, parse_eq, hbody, tokenize_nil]
    rfl
  · rw [if_neg hbody]
    refine ⟨?_, normalize?_normalized_eq_iff hbody, fun hhead => ?_, fun hhead => ?_⟩
    · unfold SingleSign
      rw [String.toList_ofList]
      exact ⟨fun ⟨cs, hcs, hhead⟩ => (List.cons.inj hcs).2 ▸ hhead, fun hhead => ⟨_, rfl, hhead⟩⟩
    · rw [parse_eq, parse_eq, (body_normalized_eq_iff hbody).mpr hhead]
    · obtain ⟨rest, hrest⟩ := List.head?_eq_some_iff.mp hhead
      rw [parse_eq, hrest, tokenize_equals]
      rfl

/-- A sign that white space parts from the first is kept: the result has two signs, is normalized
further, and is read although the formula is not. -/
theorem parted_sign_kept :
    normalize? "= =A1" = some "==A1" ∧ normalize? "==A1" = some "=A1" ∧
      parse "= =A1" = .error (.unexpectedCharacter '=') ∧ parse "==A1" = .ok (.cell ⟨1, 1⟩) := by
  have hkept : body "= =A1" = ['=', 'A', '1'] := by decide +kernel
  have hread : body "==A1" = ['A', '1'] := by decide +kernel
  have hdigit : ∀ d ∈ ['1'], continuesName d = true := fun d hd =>
    List.mem_singleton.mp hd ▸ continuesName_of_isDigit rfl
  have htokens : tokenize ['A', '1'] = .ok [.name "A1"] :=
    (lexes_name (by decide) hdigit).tokenize_eq
  refine ⟨by decide +kernel, by decide +kernel, ?_, ?_⟩
  · rw [parse_eq, hkept, tokenize_equals]
    rfl
  · rw [parse_eq, hread, htokens]
    rfl

end StatementTables.Formula
