import ScriptHost.Table.Command

/-!
The commands are what the statements say: the text of the command of a statement is the text that
the database is asked, placeholder by placeholder.
-/
namespace ScriptHost.Table

theorem piecesText_append (n : Nat) (front rest : List Piece) :
    piecesText n (front ++ rest) =
      piecesText n front ++ piecesText (n + (piecesParams front).length) rest := by
  induction front generalizing n with
  | nil => simp [piecesText, piecesParams]
  | cons piece front ih =>
    cases piece with
    | text s => simp [piecesText, piecesParams, ih, String.append_assoc]
    | bind p =>
      have shift : n + 1 + (piecesParams front).length = n + ((piecesParams front).length + 1) := by
        omega
      simp [piecesText, piecesParams, ih, shift, String.append_assoc]

theorem orderText_sortTerms (key : SortKey) (descending : Bool) :
    orderText (sortTerms key descending) = " ORDER BY " ++ orderClause key descending := by
  cases key <;> cases descending <;>
    simp [orderText, sortTerms, commas, joined, Column.text, orderClause]

theorem commas_all : commas (Column.all.map Column.text) = columns := by
  simp [Column.all, commas, joined, Column.text, columns]

theorem length_filterPieces (q : Listing) :
    (piecesParams (filterPieces q)).length = (filterConditions q).length := by
  obtain ⟨language, active, nameStart, _, _, _, _⟩ := q
  cases language <;> cases active <;> cases nameStart <;> rfl

theorem whereText_numbered (n : Nat) (first : Condition) (q : Listing) :
    whereText (first :: numbered (n + 1) (filterConditions q)) =
      " WHERE " ++ first.text ++ piecesText n (filterPieces q) := by
  have lang (s : String) : " AND " ++ ("lang = " ++ s) = " AND lang = " ++ s := by
    rw [← String.append_assoc]
    rfl
  have active (s : String) : " AND " ++ ("active = " ++ s) = " AND active = " ++ s := by
    rw [← String.append_assoc]
    rfl
  have start (s : String) :
      " AND " ++ ("starts_with(name, " ++ s) = " AND starts_with(name, " ++ s := by
    rw [← String.append_assoc]
    rfl
  obtain ⟨language, active, nameStart, _, _, _, _⟩ := q
  cases language <;> cases active <;> cases nameStart <;>
    simp [filterConditions, filterPieces, numbered, whereText, joined, piecesText, Condition.text,
      placeholder, Column.text, String.append_assoc, *]

theorem text_page (q : Listing) {command : Command}
    (read : (Statement.page q).command? = some command) :
    command.text = (Statement.page q).sql := by
  cases read
  have count := length_filterPieces q
  have conditions := whereText_numbered 0 (.isNull .deletedAt) q
  have first : " FROM scripts WHERE deleted_at IS NULL" =
      " FROM scripts" ++ (" WHERE " ++ (Condition.isNull Column.deletedAt).text) := rfl
  unfold Command.text Statement.sql Statement.pieces
  dsimp only
  rw [commas_all, orderText_sortTerms, conditions, piecesText, piecesText_append, count, first]
  simp only [cutText, placeholder, piecesText, String.append_assoc, Nat.zero_add,
    String.append_empty]

theorem piecesText_bindAll (n : Nat) (params : List Param) :
    piecesText n (bindAll params) =
      commas ((List.range' (n + 1) params.length).map placeholder) := by
  induction params generalizing n with
  | nil => rfl
  | cons p params ih =>
    cases params with
    | nil =>
      simp [bindAll, piecesText, commas, joined, placeholder]
    | cons q params =>
      have rest := ih (n + 1)
      simp only [List.length_cons, List.range'_succ, List.map_cons] at rest ⊢
      rw [bindAll, piecesText, piecesText, rest]
      simp [commas, joined, placeholder, String.append_assoc]
      rintro ⟨⟩

theorem text_upsert (s : Script) {command : Command}
    (read : (Statement.upsert s).command? = some command) :
    command.text = (Statement.upsert s).sql := by
  cases read
  have front : "INSERT INTO scripts " ++
      "(name, code, lang, encoded, active, version, created_at, updated_at) VALUES (" =
      "INSERT INTO scripts (" ++ (commas (writtenColumns.map Column.text) ++ ") VALUES (") := rfl
  have values := piecesText_bindAll 0 (scriptParams s)
  have back : ") ON CONFLICT (" ++ (Column.name.text ++ (") DO UPDATE SET " ++
      (setText overwrites ++ " RETURNING "))) =
      ") ON CONFLICT (name) DO UPDATE SET code = EXCLUDED.code, lang = EXCLUDED.lang, " ++
        ("encoded = EXCLUDED.encoded, active = EXCLUDED.active, version = EXCLUDED.version, " ++
          ("deleted_at = NULL, created_at = EXCLUDED.created_at, " ++
            "updated_at = EXCLUDED.updated_at RETURNING ")) := by decide +kernel
  have whole := congrArg (· ++ columns) back
  simp only [String.append_assoc] at whole
  unfold Command.text Statement.sql Statement.pieces
  dsimp only
  rw [commas_all, List.cons_append, piecesText, piecesText_append, values, front]
  simp only [piecesText, String.append_assoc, String.append_empty, whole]
  rfl

theorem text_find (name : String) {command : Command}
    (read : (Statement.find name).command? = some command) :
    command.text = (Statement.find name).sql := by
  cases read
  have rest : " FROM scripts" ++ (whereText [.equals .name 1, .isNull .deletedAt] ++
      (orderText [] ++ cutText none)) =
      " FROM scripts WHERE name = " ++ ("$" ++ (toString 1 ++ " AND deleted_at IS NULL")) := by
    decide +kernel
  unfold Command.text Statement.sql Statement.pieces
  dsimp only
  rw [commas_all]
  simp only [piecesText, String.append_assoc, String.append_empty, rest]

theorem text_of_command {s : Statement} {command : Command} (read : s.command? = some command) :
    command.text = s.sql := by
  cases s with
  | upsert s => exact text_upsert s read
  | find name => exact text_find name read
  | page q => exact text_page q read
  | softDelete name | hardDelete name =>
    cases read
    rfl
  | loadAll =>
    cases read
    unfold Command.text
    rw [commas_all]
    rfl
  | ping | createTable => cases read

end ScriptHost.Table
