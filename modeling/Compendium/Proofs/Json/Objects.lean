import Compendium.Proofs.Assignments
import Compendium.Proofs.Json.Written

/-!
# Objects read back

The fields of an object are written one to a line, each as its name, a colon, a blank and its value.
Reading a name stops where the value begins (`readName_ascii`), and each field is read back up to
the closing brace (`readFields_indented`). What is read is assigned field by field, so an object
comes back if no two of its fields have one name. Main theorem `readsBack_obj`.
-/

namespace Compendium.Json

/-! ## Names -/

theorem readName_ascii (name : Text) {c : Char} (hc : isSpace c = false) (offset : Nat)
    (cs : List Char) :
    readName ⟨offset, indentedText name ++ ':' :: ' ' :: c :: cs⟩ =
      .ok (name, ⟨offset + (indentedText name).length + 2, c :: cs⟩) := by
  have hread := readString_indentedText name offset (':' :: ' ' :: c :: cs)
  have htext : indentedText name ++ ':' :: ' ' :: c :: cs =
      '"' :: (name.points.flatMap asciiPoint ++ '"' :: ':' :: ' ' :: c :: cs) := by simp [indentedText]
  have hblank : isSpace ' ' = true := by decide
  rw [htext, readName]
  simp only [hread, Bind.bind, Except.bind, Cursor.space, skipSpace_stop (c := ':') (by decide)]
  simp [pure, Except.pure, skipSpace, hblank, hc]

/-! ## Fields -/

/-- The fields of an object and its closing brace, from the name of the first on. -/
def fieldsBody (depth : Nat) (f : Text × Json) (rest : List (Text × Json)) : List Char :=
  indentedText f.1 ++ ':' :: ' ' :: f.2.indentedChars (depth + 1) ++
    (if rest.isEmpty then [] else [',']) ++ indentedFields depth rest

theorem indentedFields_cons (depth : Nat) (f : Text × Json) (rest : List (Text × Json)) :
    indentedFields depth (f :: rest) = newLine (depth + 1) ++ fieldsBody depth f rest := by
  simp [indentedFields, fieldsBody]

theorem fieldsBody_starts (depth : Nat) (f : Text × Json) (rest : List (Text × Json))
    (more : List Char) : ∃ tail, fieldsBody depth f rest ++ more = '"' :: tail := by
  simp [fieldsBody, indentedText]

theorem readFields_indented {f : Text × Json} {fields : List (Text × Json)} (hf : ReadsBack f.2)
    (hfields : ∀ g ∈ fields, ReadsBack g.2) (depth fuel offset : Nat) (rest : List Char)
    (hfuel : (fieldsBody depth f fields).length < fuel) :
    readFields fuel ⟨offset, fieldsBody depth f fields ++ rest⟩ =
      .ok (f :: fields, ⟨offset + (fieldsBody depth f fields).length, rest⟩) := by
  induction fields generalizing f fuel offset with
  | nil =>
    cases fuel with
    | zero => omega
    | succ fuel =>
      obtain ⟨c, cs, hstart, hspace, -, -⟩ := hf.starts (depth + 1)
      have hbody : fieldsBody depth f [] ++ rest = indentedText f.1 ++
          ':' :: ' ' :: (f.2.indentedChars (depth + 1) ++ (newLine depth ++ '\x7d' :: rest)) := by
        simp [fieldsBody, indentedFields]
      have hlen : (fieldsBody depth f []).length = (indentedText f.1).length + 2 +
          (f.2.indentedChars (depth + 1)).length + (newLine depth).length + 1 := by
        simp [fieldsBody, indentedFields]
        omega
      have hread := hf.reads (depth + 1) fuel (offset + (indentedText f.1).length + 2)
        (newLine depth ++ '\x7d' :: rest) (by omega) (followsValue_newLine _ _)
      rw [hstart, List.cons_append] at hread
      rw [hbody, readFields, hlen, hstart, List.cons_append, readName_ascii f.1 hspace]
      simp only [Bind.bind, Except.bind, hread, Cursor.space, skipSpace_newLine (c := '\x7d') (by decide)]
      simp [pure, Except.pure, Nat.add_assoc]
  | cons g fields ih =>
    cases fuel with
    | zero => omega
    | succ fuel =>
      obtain ⟨c, cs, hstart, hspace, -, -⟩ := hf.starts (depth + 1)
      have hbody : fieldsBody depth f (g :: fields) ++ rest = indentedText f.1 ++
          ':' :: ' ' :: (f.2.indentedChars (depth + 1) ++
            ',' :: (newLine (depth + 1) ++ (fieldsBody depth g fields ++ rest))) := by
        simp [fieldsBody, indentedFields_cons]
      have hlen : (fieldsBody depth f (g :: fields)).length = (indentedText f.1).length + 2 +
          (f.2.indentedChars (depth + 1)).length + 1 + (newLine (depth + 1)).length +
          (fieldsBody depth g fields).length := by
        rw [fieldsBody, indentedFields_cons]
        simp
        omega
      have hread := hf.reads (depth + 1) fuel (offset + (indentedText f.1).length + 2)
        (',' :: (newLine (depth + 1) ++ (fieldsBody depth g fields ++ rest))) (by omega)
        (followsValue_comma _)
      have hnext := ih (hfields g (by simp)) (fun h hh => hfields h (List.mem_cons_of_mem g hh)) fuel
        (offset + (indentedText f.1).length + 2 + (f.2.indentedChars (depth + 1)).length + 1 +
          (newLine (depth + 1)).length) (by omega)
      obtain ⟨tail, htail⟩ := fieldsBody_starts depth g fields rest
      rw [htail] at hnext hread
      rw [hstart, List.cons_append] at hread
      rw [hbody, readFields, hlen, htail, hstart, List.cons_append, readName_ascii f.1 hspace]
      rw [hstart] at hnext
      simp only [Bind.bind, Except.bind, hread, Cursor.space, skipSpace_stop (c := ',') (by decide),
        skipSpace_newLine (c := '"') (by decide), hnext]
      simp [pure, Except.pure, Nat.add_assoc]

theorem ascii_indentedText {name : Text} {c : Char} (hc : c ∈ indentedText name) :
    c.toNat < 128 ∧ c ≠ '\r' := (readsBack_str name).ascii 0 c hc

theorem ascii_indentedFields {fields : List (Text × Json)} (hfields : ∀ f ∈ fields, ReadsBack f.2)
    (depth : Nat) {c : Char} (hc : c ∈ indentedFields depth fields) : c.toNat < 128 ∧ c ≠ '\r' := by
  induction fields with
  | nil =>
    simp only [indentedFields, List.mem_append, List.mem_singleton] at hc
    rcases hc with hc | rfl
    · exact ascii_of_mem_newLine hc
    · decide
  | cons f fields ih =>
    simp only [indentedFields, List.mem_append, List.mem_cons] at hc
    rcases hc with (((hc | hc) | rfl | rfl | hc) | hc) | hc
    · exact ascii_of_mem_newLine hc
    · exact ascii_indentedText hc
    · decide
    · decide
    · exact (hfields f (by simp)).ascii _ c hc
    · split_ifs at hc
      · simp at hc
      · simp only [List.mem_singleton] at hc
        subst hc
        decide
    · exact ih (fun g hg => hfields g (List.mem_cons_of_mem f hg)) hc

/-! ## Objects -/

/-- **An object whose names are all different is read back if its values are.** -/
theorem readsBack_obj {fields : List (Text × Json)} (hnames : (Fields.names fields).Nodup)
    (hfields : ∀ f ∈ fields, ReadsBack f.2) : ReadsBack (.obj fields) where
  starts depth := by
    cases fields with
    | nil => exact ⟨'\x7b', _, rfl, by decide, by decide, by decide⟩
    | cons f fields => exact ⟨'\x7b', _, rfl, by decide, by decide, by decide⟩
  ascii depth c hc := by
    cases fields with
    | nil =>
      simp only [indentedChars, List.mem_cons, List.not_mem_nil, or_false] at hc
      rcases hc with rfl | rfl <;> decide
    | cons f fields =>
      simp only [indentedChars, List.mem_cons] at hc
      rcases hc with rfl | hc
      · decide
      · exact ascii_indentedFields hfields depth hc
  reads depth fuel offset rest hfuel _ := by
    cases fuel with
    | zero => cases fields <;> simp [indentedChars] at hfuel
    | succ fuel =>
      cases fields with
      | nil => rfl
      | cons f fields =>
        have hchars : (Json.obj (f :: fields)).indentedChars depth =
            '\x7b' :: (newLine (depth + 1) ++ fieldsBody depth f fields) := by
          rw [indentedChars, indentedFields_cons]
          simp
        rw [hchars] at hfuel ⊢
        simp only [List.length_cons, List.length_append] at hfuel
        have hnl : 0 < (newLine (depth + 1)).length := by simp [newLine]
        have hread := readFields_indented (hfields f (by simp))
          (fun g hg => hfields g (List.mem_cons_of_mem f hg)) depth fuel
          (offset + 1 + (newLine (depth + 1)).length) rest (by omega)
        obtain ⟨tail, htail⟩ := fieldsBody_starts depth f fields rest
        have hspaced : Cursor.space ⟨offset + 1, newLine (depth + 1) ++ '"' :: tail⟩ =
            ⟨offset + 1 + (newLine (depth + 1)).length, '"' :: tail⟩ :=
          skipSpace_newLine (by decide) _ _ _
        rw [htail] at hread
        rw [List.cons_append, List.append_assoc, htail, readValue]
        simp only [hspaced]
        split
        · rename_i tail' hclosed
          rw [List.cons.injEq] at hclosed
          exact absurd hclosed.1 (by decide)
        · simp only [hread, Bind.bind, Except.bind, Fields.ofAssignments_of_nodup hnames,
            List.length_cons, List.length_append]
          simp only [pure, Except.pure, Except.ok.injEq, Prod.mk.injEq, Cursor.mk.injEq, and_true,
            true_and]
          omega

end Compendium.Json
