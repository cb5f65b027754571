import StatePort.Lifecycle.Equiv.Reading

/-!
# Literal block scalars

Comment lines are removed and lines are stripped before a block scalar is recognised, so that a line
of its text that starts with `#` is lost (`literal_loses_line`). `parseYamlText_literal` says which
texts are read as they are written: a line that is changed makes the text shorter.
-/

namespace StatePort.Lifecycle

open Yaml List Str

variable {cs : List Char} {c : Char} {key : String} {lines : List (List Char)}

/-- `key: |`, and the lines below it. -/
def literalText (key : String) (lines : List (List Char)) : List Char :=
  textOf ((0, key.toList ++ [':', ' ', '|']) :: lines.map fun line => (2, line))

/-- A line without white space at its end that is no comment. -/
def IsText (line : List Char) : Prop := rstrip line = line ∧ (lstrip line).head? ≠ some '#'

lemma rstrip_eq_self_iff : rstrip cs = cs ↔ ∀ c ∈ cs.getLast?, isSpace c = false := by
  rw [show rstrip cs = cs.rdropWhile isSpace from rfl, rdropWhile_eq_self_iff]
  cases cs with
  | nil => simp
  | cons c cs => simp [getLast?_eq_some_getLast (cons_ne_nil c cs)]

lemma length_rstrip_le : (rstrip cs).length ≤ cs.length :=
  IsPrefix.length_le ( rdropWhile_prefix isSpace cs)

lemma length_rstrip_lt (h : rstrip cs ≠ cs) : (rstrip cs).length < cs.length :=
  lt_of_le_of_ne length_rstrip_le fun hlength =>
    h (IsPrefix.eq_of_length ( rdropWhile_prefix isSpace cs) hlength)

/-! ### One line of a text -/

lemma exists_spaces (line : List Char) :
    ∃ n rest, line = spaces n ++ rest ∧ rest.head? ≠ some ' ' := by
  induction line with
  | nil => exact ⟨0, [], rfl, by simp⟩
  | cons c cs ih =>
    by_cases hc : c = ' '
    · obtain ⟨n, rest, rfl, hrest⟩ := ih
      exact ⟨n + 1, rest, by rw [hc]; rfl, hrest⟩
    · exact ⟨0, c :: cs, rfl, by simpa using hc⟩

lemma lstrip_spaces (n : ℕ) : lstrip (spaces n ++ cs) = lstrip cs :=
  dropWhile_append_of_pos fun d hd => by rw [(mem_replicate.mp hd).2]; decide

lemma head?_rstrip_lstrip : (rstrip (lstrip cs)).head? = (lstrip cs).head? := by
  cases h : lstrip cs with
  | nil => rfl
  | cons c rest =>
    have hc : isSpace c = false := by
      have hhead := head?_dropWhile_not isSpace cs
      rwa [show cs.dropWhile isSpace = c :: rest from h] at hhead
    rw [show rstrip (c :: rest) = c :: rstrip rest from rstrip_append [] hc rest]
    rfl

lemma preprocessLine_spaces {n : ℕ} (h : cs.head? ≠ some ' ') (lineno : ℕ) :
    preprocessLine (rawLine (2, spaces n ++ cs)) lineno =
      if (lstrip cs).head? = some '#' then .ok none
      else .ok (some ⟨n + 2, rstrip cs, lineno⟩) := by
  have hraw : rawLine (2, spaces n ++ cs) = spaces (n + 2) ++ cs := by
    simp [rawLine, spaces, ← replicate_append_replicate, Nat.add_comm n]
  have hindent : indentOf (spaces (n + 2) ++ cs) = n + 2 := by
    rw [indentOf, takeWhile_append_of_pos fun d hd => by simpa using (mem_replicate.mp hd).2]
    cases cs with
    | nil => simp [spaces]
    | cons c cs =>
      have hc : c ≠ ' ' := fun hc => h (by rw [hc]; rfl)
      simp [spaces, hc]
  have hdrop : (spaces (n + 2) ++ cs).drop (n + 2) = cs := drop_left' (by simp [spaces])
  have htab : '\t' ∉ (spaces (n + 2) ++ cs).take (n + 2) := by
    rw [take_left' (by simp [spaces])]
    exact fun hmem => absurd (mem_replicate.mp hmem).2 (by decide)
  rw [hraw, preprocessLine]
  simp only [lstrip_spaces, head?_rstrip_lstrip, hindent, hdrop, if_neg htab]
  split_ifs with hcomment hblank
  · rfl
  · -- a blank line has nothing left
    have hhead : (lstrip cs).head? = none := by rw [← head?_rstrip_lstrip, hblank]; rfl
    have hall := dropWhile_eq_nil_iff.mp (head?_eq_none_iff.mp hhead)
    rw [show rstrip cs = [] from rdropWhile_eq_nil_iff.mpr hall]
  · rfl

lemma isText_spaces_iff {n : ℕ} (hend : (spaces n ++ cs).getLast? ≠ some ' ') :
    IsText (spaces n ++ cs) ↔ rstrip cs = cs ∧ (lstrip cs).head? ≠ some '#' := by
  rw [IsText, lstrip_spaces]
  refine and_congr_left' ?_
  cases cs with
  | nil =>
    cases n with
    | zero => rfl
    | succ n => exact absurd (by simp [spaces, replicate_succ']) hend
  | cons c cs =>
    rw [rstrip_eq_self_iff, rstrip_eq_self_iff, getLast?_append_of_ne_nil _ (cons_ne_nil c cs)]

/-! ### The lines of a text -/

/-- The length of lines with a break after each. -/
def totalLength (lines : List (List Char)) : ℕ := (lines.map fun line => line.length + 1).sum

lemma length_join (h : lines ≠ []) : (join ['\n'] lines).length + 1 = totalLength lines := by
  induction lines with
  | nil => exact absurd rfl h
  | cons line lines ih =>
    cases lines with
    | nil => simp [join, totalLength]
    | cons next lines =>
      have hnext := ih (cons_ne_nil _ _)
      rw [join] at hnext ⊢
      rw [intercalate_cons_cons, totalLength, map_cons, sum_cons, ← totalLength, ← hnext]
      simp
      omega

/-- What is read of a block is no longer than the block, and shorter if a line is changed. -/
lemma blockScalarParts_lines (hend : ∀ line ∈ lines, line.getLast? ≠ some ' ') (lineno : ℕ)
    {blockIndent : Option ℕ} (hblock : ∀ k ∈ blockIndent, 2 ≤ k) : ∃ ls parts,
    preprocessFrom lineno ((lines.map fun line => (2, line)).map rawLine) = .ok ls ∧
      blockScalarParts 2 blockIndent ls = (parts, []) ∧ totalLength parts ≤ totalLength lines ∧
      ((∃ line ∈ lines, ¬ IsText line) → totalLength parts < totalLength lines) := by
  induction lines generalizing lineno blockIndent with
  | nil => exact ⟨[], [], rfl, rfl, le_rfl, by simp⟩
  | cons line lines ih =>
    rw [forall_mem_cons] at hend
    obtain ⟨n, rest, rfl, hrest⟩ := exists_spaces line
    have hline := preprocessLine_spaces hrest lineno (n := n)
    have htotal : totalLength ((spaces n ++ rest) :: lines) =
        n + rest.length + 1 + totalLength lines := by simp [totalLength, spaces]
    rw [htotal, map_cons, map_cons, preprocessFrom, hline]
    split_ifs with hcomment
    · obtain ⟨ls, parts, hls, hparts, hle, -⟩ := ih hend.2 (lineno + 1) hblock
      refine ⟨ls, parts, by rw [ok_bind, hls]; rfl, hparts, ?_, fun _ => ?_⟩ <;> omega
    · set blockIndent' :=
        if blockIndent = none ∧ rstrip rest ≠ [] then some (n + 2) else blockIndent with hnew
      have hblock' : ∀ k ∈ blockIndent', 2 ≤ k := by
        rw [hnew]
        split_ifs
        · simp
        · exact hblock
      obtain ⟨ls, parts, hls, hparts, hle, hlt⟩ := ih hend.2 (lineno + 1) hblock'
      set base := if blockIndent' = some 0 then n + 2 else blockIndent'.getD (n + 2) with hbase
      have hbase' : 2 ≤ base := by
        rw [hbase]
        split_ifs
        · omega
        · cases hvalue : blockIndent' with
          | none => simp
          | some k => exact hblock' k hvalue
      have htotal' : totalLength ((replicate (n + 2 - base) ' ' ++ rstrip rest) :: parts) =
          (n + 2 - base) + (rstrip rest).length + 1 + totalLength parts := by simp [totalLength]
      have hlength : (rstrip rest).length ≤ rest.length := length_rstrip_le
      refine ⟨⟨n + 2, rstrip rest, lineno⟩ :: ls,
        (replicate (n + 2 - base) ' ' ++ rstrip rest) :: parts, by rw [ok_bind, hls]; rfl, ?_, ?_,
          ?_⟩
      · rw [blockScalarParts, if_neg (by simp)]
        simp only [← hnew, ← hbase, hparts]
      · omega
      · rintro ⟨line, hmem, hchanged⟩
        obtain rfl | hmem := mem_cons.mp hmem
        · have hshorter := length_rstrip_lt fun hsame =>
            hchanged ((isText_spaces_iff hend.1).mpr ⟨hsame, hcomment⟩)
          omega
        · have := hlt ⟨line, hmem, hchanged⟩
          omega

/-- A block whose indentation is known is read as it is written if no line is changed. -/
lemma blockScalarParts_text (hend : ∀ line ∈ lines, line.getLast? ≠ some ' ')
    (htext : ∀ line ∈ lines, IsText line) (lineno : ℕ) : ∃ ls,
    preprocessFrom lineno ((lines.map fun line => (2, line)).map rawLine) = .ok ls ∧
      blockScalarParts 2 (some 2) ls = (lines, []) := by
  induction lines generalizing lineno with
  | nil => exact ⟨[], rfl, rfl⟩
  | cons line lines ih =>
    rw [forall_mem_cons] at hend htext
    obtain ⟨ls, hls, hparts⟩ := ih hend.2 htext.2 (lineno + 1)
    obtain ⟨n, rest, rfl, hrest⟩ := exists_spaces line
    obtain ⟨hsame, hcomment⟩ := (isText_spaces_iff hend.1).mp htext.1
    refine ⟨⟨n + 2, rest, lineno⟩ :: ls, ?_, ?_⟩
    · rw [map_cons, map_cons, preprocessFrom, preprocessLine_spaces hrest, if_neg hcomment, ok_bind,
        hls, hsame]
      rfl
    · rw [blockScalarParts, if_neg (by simp)]
      simp [hparts, spaces]

/-- What is read of a key with a block scalar under it. -/
lemma parseYamlText_block (hkey : IsKey key) (hone : ∀ line ∈ lines, OneLine line)
    {ls : List Line} {parts : List (List Char)}
    (hls : preprocessFrom 2 ((lines.map fun line => (2, line)).map rawLine) = .ok ls)
    (hparts : blockScalarParts 2 none ls = (parts, [])) :
    parseYamlText (literalText key lines) =
      .ok (.dict [(key, .str (String.ofList (join ['\n'] parts)))]) := by
  obtain ⟨k, ks, hks⟩ := exists_cons_of_ne_nil hkey.ne_nil
  have hk : isKeyChar k := hkey.chars k (by simp [hks])
  have hmark : OneLine [':', ' ', '|'] := breaks_eq_zero_iff.mp rfl
  have hlines : ∀ line ∈ (0, key.toList ++ [':', ' ', '|']) ::
      lines.map fun line => (2, line), OneLine line.2 := by
    refine forall_mem_cons.mpr ⟨oneLine_append.mpr ⟨fun d hd => ?_, hmark⟩, forall_mem_map.mpr hone⟩
    exact isLineBreak_eq_false (isSpace_of_isKeyChar (hkey.chars d hd))
  have hhead : preprocessLine (rawLine (0, key.toList ++ [':', ' ', '|'])) 1 =
      .ok (some ⟨0, key.toList ++ [':', ' ', '|'], 1⟩) := by
    have hend := rstrip_append (c := '|') (key.toList ++ [':', ' ']) rfl []
    rw [append_assoc, append_assoc, hks] at hend
    rw [hks, cons_append, preprocessLine_rawLine (isSpace_of_isKeyChar hk)
      (ne_of_isKeyChar hk (by decide))]
    exact congrArg (fun cs => Except.ok (some (Line.mk 0 cs 1))) hend
  have hvalue : rstrip (lstrip [' ', '|']) = ['|'] := by decide
  have hpre : preprocessYaml (literalText key lines) =
      .ok (⟨0, key.toList ++ [':', ' ', '|'], 1⟩ :: ls) := by
    rw [preprocessYaml, literalText, splitlines_textOf hlines, map_cons, preprocessFrom, hhead,
      ok_bind, hls]
    rfl
  rw [parseYamlText, hpre, ok_bind, parseLines, parseBlock_succ 99, parseBlockWith,
    if_neg (lt_irrefl _), isItem_key hkey, if_neg Bool.false_ne_true, parseMapping, length_cons,
    mappingLoop, if_neg (by simp), if_neg (by simp [isItem_key hkey]), splitKeyValue_key hkey,
      hvalue]
  have hloop (mapping : List (String × Value)) :
      mappingLoop (parseBlock 99) 0 ls.length mapping [] = .ok (mapping, []) := by
    cases ls <;> rfl
  simp [parseFieldValue, parseBlockScalar, hparts, raiseIf, hloop, Value.ofFields]

/-- **Literal blocks.** A text whose first line does not start with a space and whose lines do not
end with one is returned with its lines as they are if and only if no line is a comment or ends with
white space. -/
theorem parseYamlText_literal (hkey : IsKey key) (hc : c ≠ ' ')
    (hone : ∀ line ∈ (c :: cs) :: lines, OneLine line)
    (hend : ∀ line ∈ (c :: cs) :: lines, line.getLast? ≠ some ' ') :
    parseYamlText (literalText key ((c :: cs) :: lines)) =
        .ok (.dict [(key, .str (String.ofList (join ['\n'] ((c :: cs) :: lines))))]) ↔
      ∀ line ∈ (c :: cs) :: lines, IsText line := by
  constructor
  · intro h
    obtain ⟨ls, parts, hls, hparts, -, hshorter⟩ :=
      @blockScalarParts_lines _ hend 2 none (by simp)
    have hsame : join ['\n'] parts = join ['\n'] ((c :: cs) :: lines) := by
      rw [parseYamlText_block hkey hone hls hparts] at h
      exact String.ofList_injective (by simpa using h)
    by_contra! hchanged
    have hne : parts ≠ [] := by
      rintro rfl
      have := congrArg length hsame
      have := length_join (cons_ne_nil (c :: cs) lines)
      simp_all [join, totalLength]
    have := hshorter hchanged
    rw [← length_join hne, ← length_join (cons_ne_nil _ _), hsame] at this
    exact lt_irrefl _ this
  · intro htext
    rw [forall_mem_cons] at htext hend
    obtain ⟨ls, hls, hparts⟩ := blockScalarParts_text hend.2 htext.2 3
    have hfirst := @preprocessLine_spaces (c :: cs) 0 (by simpa using hc) 2
    have hblock : blockScalarParts 2 none (⟨2, c :: cs, 2⟩ :: ls) = ((c :: cs) :: lines, []) := by
      -- the first line gives the indentation of the block
      rw [blockScalarParts, if_neg (by simp)]
      simp [hparts]
    refine parseYamlText_block hkey hone ?_ hblock
    rw [if_neg htext.1.2, htext.1.1] at hfirst
    rw [map_cons, map_cons, preprocessFrom]
    exact (congrArg (· >>= _) hfirst).trans (by rw [ok_bind, hls]; rfl)

/-- The first line of the text is lost. -/
theorem literal_loses_line : parseYamlText (literalText "key" ["# a".toList, "b".toList]) =
    .ok (.dict [("key", .str "b")]) := by
  decide +kernel

/-- A line that starts with a no-break space, an empty one, and one with a `#` in it. -/
theorem parseYamlText_literal_sample :
    parseYamlText (literalText "key" [[Char.ofNat 160, 'x'], [], [' ', 'a', ' ', '#']]) =
      .ok (.dict [("key", .str
        (String.ofList (join ['\n'] [[Char.ofNat 160, 'x'], [], [' ', 'a', ' ', '#']])))]) := by
  refine (parseYamlText_literal ⟨by decide, by decide⟩ (by decide) ?_ (by decide)).mpr ?_
  · exact fun line hline => breaks_eq_zero_iff.mp (by revert line; decide)
  · unfold IsText
    decide +kernel

end StatePort.Lifecycle
