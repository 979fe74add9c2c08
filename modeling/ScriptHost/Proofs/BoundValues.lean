import ScriptHost.Proofs.CommandText
import ScriptHost.Proofs.TableAgreement

/-!
Values never stand in the text of a statement. The text is settled by the shape of the operation,
its placeholders are numbered from 1 on without a gap, and each is bound to the very value that the
text around it is about.
-/
namespace ScriptHost

namespace Table

/-! ### The placeholders of a text -/

/-- What stands behind each dollar sign, as far as it is made of digits. -/
def marks : List Char → List (List Char)
  | [] => []
  | c :: cs => if c = '$' then cs.takeWhile Char.isDigit :: marks cs else marks cs

theorem marks_append_of_notMem {front : List Char} (plain : '$' ∉ front) (rest : List Char) :
    marks (front ++ rest) = marks rest := by
  induction front with
  | nil => rfl
  | cons c front ih =>
    rw [List.mem_cons, not_or] at plain
    rw [List.cons_append, marks, if_neg (Ne.symm plain.1), ih plain.2]

theorem isDigit_of_mem_toString {n : Nat} {c : Char} (member : c ∈ (toString n).toList) :
    c.isDigit = true :=
  Nat.isDigit_of_mem_toDigits (by decide) (by decide) (Nat.toList_repr ▸ member)

theorem marks_placeholder (n : Nat) {rest : List Char}
    (ends : ∀ c ∈ rest.head?, c.isDigit = false) :
    marks ((placeholder n).toList ++ rest) = (toString n).toList :: marks rest := by
  have text : (placeholder n).toList ++ rest = '$' :: ((toString n).toList ++ rest) := by
    rw [placeholder, String.toList_append]
    rfl
  have whole : ((toString n).toList ++ rest).takeWhile Char.isDigit = (toString n).toList := by
    rw [List.takeWhile_append_of_pos fun c => isDigit_of_mem_toString]
    cases rest with
    | nil => simp
    | cons c rest =>
      rw [List.takeWhile_cons, if_neg (by rw [ends c rfl]; exact Bool.false_ne_true),
        List.append_nil]
  have plain : '$' ∉ (toString n).toList := fun member =>
    absurd (isDigit_of_mem_toString member) (by decide)
  rw [text, marks, if_pos rfl, whole, marks_append_of_notMem plain]

def PlainText (s : String) : Prop := '$' ∉ s.toList ∧ ∀ c ∈ s.toList.head?, c.isDigit = false

namespace PlainText

theorem literal {cs : List Char} (plain : '$' ∉ cs ∧ cs.head?.any Char.isDigit = false) :
    PlainText (String.ofList cs) := by
  rw [PlainText, String.toList_ofList]
  exact ⟨plain.1, (Option.any_eq_false _ _).mp plain.2⟩

theorem append {s t : String} (first : PlainText s) (rest : PlainText t) : PlainText (s ++ t) := by
  refine ⟨?_, fun c begins => ?_⟩
  · rw [String.toList_append, List.mem_append, not_or]
    exact ⟨first.1, rest.1⟩
  · rw [String.toList_append, List.head?_append, Option.mem_def, Option.or_eq_some_iff] at begins
    rcases begins with begins | ⟨_, begins⟩
    · exact first.2 c begins
    · exact rest.2 c begins

theorem columns : PlainText columns := literal (by decide)

theorem orderClause (key : SortKey) (descending : Bool) :
    PlainText (orderClause key descending) := by
  cases key <;> cases descending <;> exact literal (by decide)

end PlainText

def Piece.Plain : Piece → Prop
  | .text s => PlainText s
  | .bind _ => True

def Plain (pieces : List Piece) : Prop := ∀ piece ∈ pieces, piece.Plain

namespace Plain

variable {pieces more : List Piece}

theorem nil : Plain [] := fun _ => nofun

theorem text {s : String} (plain : PlainText s) (rest : Plain pieces) :
    Plain (.text s :: pieces) :=
  List.forall_mem_cons.mpr ⟨plain, rest⟩

theorem bind {p : Param} (rest : Plain pieces) : Plain (.bind p :: pieces) :=
  List.forall_mem_cons.mpr ⟨trivial, rest⟩

theorem append (first : Plain pieces) (rest : Plain more) : Plain (pieces ++ more) :=
  List.forall_mem_append.mpr ⟨first, rest⟩

end Plain

theorem head?_piecesText {pieces : List Piece} (plain : Plain pieces) (n : Nat) :
    ∀ c ∈ (piecesText n pieces).toList.head?, c.isDigit = false := by
  induction pieces generalizing n with
  | nil => simp [piecesText]
  | cons piece pieces ih =>
    obtain ⟨first, rest⟩ := List.forall_mem_cons.mp plain
    cases piece with
    | bind p =>
      rw [piecesText, String.toList_append, String.toList_append]
      rintro c ⟨⟩
      rfl
    | text s =>
      rw [piecesText, String.toList_append]
      intro c begins
      rw [List.head?_append, Option.mem_def, Option.or_eq_some_iff] at begins
      rcases begins with begins | ⟨_, begins⟩
      · exact first.2 c begins
      · exact ih rest n c begins

theorem marks_piecesText {pieces : List Piece} (plain : Plain pieces) (n : Nat) :
    marks (piecesText n pieces).toList =
      (List.range' (n + 1) (piecesParams pieces).length).map fun k => (toString k).toList := by
  induction pieces generalizing n with
  | nil => rfl
  | cons piece pieces ih =>
    obtain ⟨first, rest⟩ := List.forall_mem_cons.mp plain
    cases piece with
    | text s =>
      rw [piecesText, String.toList_append, marks_append_of_notMem first.1, ih rest]
      rfl
    | bind p =>
      have text : piecesText n (.bind p :: pieces) =
          placeholder (n + 1) ++ piecesText (n + 1) pieces := rfl
      rw [text, String.toList_append, marks_placeholder _ (head?_piecesText rest _), ih rest,
        piecesParams, List.length_cons, List.range'_succ, List.map_cons]

theorem plain_bindAll (params : List Param) : Plain (bindAll params) := by
  induction params with
  | nil => exact .nil
  | cons p params ih =>
    cases params with
    | nil => exact .bind .nil
    | cons q params => exact .bind (.text (.literal (by decide)) ih)

theorem plain_filterPieces (q : Listing) : Plain (filterPieces q) := by
  refine .append (.append ?_ ?_) ?_ <;> split
  · exact .text (.literal (by decide)) (.bind .nil)
  · exact .nil
  · exact .text (.literal (by decide)) (.bind .nil)
  · exact .nil
  · exact .text (.literal (by decide)) (.bind (.text (.literal (by decide)) .nil))
  · exact .nil

theorem plain_pieces (use : Use) : Plain use.statement.pieces := by
  have select {after : String} (plain : PlainText after) :
      PlainText ("SELECT " ++ columns ++ after) :=
    .append (.append (.literal (by decide)) .columns) plain
  cases use with
  | put s =>
    refine .append (.text ?_ (plain_bindAll _)) (.text ?_ .nil)
    · exact .append (.literal (by decide)) (.literal (by decide))
    · refine .append (.append (.append (.append ?_ ?_) ?_) ?_) .columns <;>
        exact .literal (by decide)
  | get name =>
    exact .text (select (.literal (by decide))) (.bind (.text (.literal (by decide)) .nil))
  | softDelete name =>
    exact .text (.literal (by decide)) (.bind (.text (.literal (by decide)) .nil))
  | page q =>
    refine .text (select (.literal (by decide))) (.append (plain_filterPieces q) ?_)
    refine .text (.append (.literal (by decide)) (.orderClause _ _)) ?_
    exact .text (.literal (by decide)) (.bind (.text (.literal (by decide)) (.bind .nil)))
  | hardDelete name => exact .text (.literal (by decide)) (.bind .nil)
  | loadAll => exact .text (select (.literal (by decide))) .nil

/-! ### What the placeholders are for -/

/-- What a text does with the value of a placeholder. -/
inductive Role where
  | written (c : Column)
  | equals (c : Column)
  | startsWith (c : Column)
  | limit
  | offset
  deriving DecidableEq, Repr

def Role.Stands (sql : String) (n : Nat) : Role → Prop
  | .written c => ∃ (columns : List Column) (rest : String), sql =
      "INSERT INTO scripts (" ++ commas (columns.map Column.text) ++ ") VALUES ("
        ++ commas ((List.range' 1 columns.length).map placeholder) ++ ")" ++ rest ∧
      1 ≤ n ∧ columns[n - 1]? = some c
  | .equals c => ∃ before after, sql = before ++ " " ++ c.text ++ " = " ++ placeholder n ++ after
  | .startsWith c => ∃ before after,
      sql = before ++ " starts_with(" ++ c.text ++ ", " ++ placeholder n ++ ")" ++ after
  | .limit => ∃ before after, sql = before ++ " LIMIT " ++ placeholder n ++ after
  | .offset => ∃ before after, sql = before ++ " OFFSET " ++ placeholder n ++ after

def Condition.role? (n : Nat) : Condition → Option Role
  | .equals c m => if m = n then some (.equals c) else none
  | .startsWith c m => if m = n then some (.startsWith c) else none
  | .isNull _ => none

def cutRole? (n : Nat) : Option (Nat × Nat) → Option Role
  | some (limit, offset) =>
    if limit = n then some .limit else if offset = n then some .offset else none
  | none => none

def Command.role? (n : Nat) : Command → Option Role
  | .insert columns _ => if n = 0 then none else columns[n - 1]?.map .written
  | .select conditions _ cut => (conditions.findSome? (Condition.role? n)).or (cutRole? n cut)
  | .update _ conditions | .delete conditions => conditions.findSome? (Condition.role? n)

theorem exists_joined {item : String} {items : List String} (member : item ∈ items)
    (lead : String) : ∃ before after,
      lead ++ " " ++ joined " AND " items = before ++ " " ++ item ++ after := by
  have joint (s : String) : " AND " ++ s = " AND" ++ (" " ++ s) := by
    rw [← String.append_assoc]
    rfl
  induction items generalizing lead with
  | nil => cases member
  | cons first rest ih =>
    cases rest with
    | nil =>
      obtain rfl := List.mem_singleton.mp member
      exact ⟨lead, "", by rw [joined, String.append_empty]⟩
    | cons second rest =>
      rcases List.mem_cons.mp member with rfl | later
      · exact ⟨lead, " AND " ++ joined " AND " (second :: rest), by
          simp only [joined, String.append_assoc]⟩
      · obtain ⟨before, after, same⟩ := ih later (lead ++ " " ++ first ++ " AND")
        refine ⟨before, after, same ▸ ?_⟩
        simp only [joined, String.append_assoc, joint]

theorem exists_whereText {condition : Condition} {conditions : List Condition}
    (member : condition ∈ conditions) :
    ∃ before after, whereText conditions = before ++ " " ++ condition.text ++ after := by
  have some : conditions.isEmpty = false := by
    cases conditions <;> simp at member ⊢
  have lead : " WHERE " = " WHERE" ++ " " := rfl
  rw [whereText, some, if_neg Bool.false_ne_true, lead]
  exact exists_joined (List.mem_map_of_mem member) " WHERE"

theorem Role.stands_of_condition {condition : Condition} {n : Nat} {role : Role}
    {sql before after : String} (named : condition.role? n = some role)
    (within : sql = before ++ " " ++ condition.text ++ after) : role.Stands sql n := by
  cases condition with
  | equals c m =>
    obtain ⟨rfl, ⟨⟩⟩ := Option.ite_none_right_eq_some.mp named
    exact ⟨before, after, by rw [within, Condition.text]; simp only [String.append_assoc]⟩
  | startsWith c m =>
    obtain ⟨rfl, ⟨⟩⟩ := Option.ite_none_right_eq_some.mp named
    refine ⟨before, after, ?_⟩
    have lead (s : String) : " " ++ ("starts_with(" ++ s) = " starts_with(" ++ s := by
      rw [← String.append_assoc]
      rfl
    rw [within, Condition.text]
    simp only [String.append_assoc, lead]
  | isNull c => cases named

theorem Role.stands_of_conditions {conditions : List Condition} {n : Nat} {role : Role}
    (named : conditions.findSome? (Condition.role? n) = some role) (front back : String) :
    role.Stands (front ++ whereText conditions ++ back) n := by
  obtain ⟨condition, member, found⟩ := List.exists_of_findSome?_eq_some named
  obtain ⟨before, after, within⟩ := exists_whereText member
  have whole : front ++ whereText conditions ++ back =
      (front ++ before) ++ " " ++ condition.text ++ (after ++ back) := by
    rw [within]
    simp only [String.append_assoc]
  exact Role.stands_of_condition found whole

theorem Role.stands_of_cut {cut : Option (Nat × Nat)} {n : Nat} {role : Role}
    (named : cutRole? n cut = some role) (front : String) :
    role.Stands (front ++ cutText cut) n := by
  cases cut with
  | none => cases named
  | some cut =>
    obtain ⟨limit, offset⟩ := cut
    simp only [cutRole?] at named
    split at named
    · obtain ⟨rfl, ⟨⟩⟩ := And.intro ‹limit = n› named
      exact ⟨front, " OFFSET " ++ placeholder offset, by
        simp only [cutText, String.append_assoc]⟩
    · obtain ⟨rfl, ⟨⟩⟩ := Option.ite_none_right_eq_some.mp named
      exact ⟨front ++ " LIMIT " ++ placeholder limit, "", by
        simp only [cutText, String.append_assoc, String.append_empty]⟩

theorem Role.stands_written {columns : List Column} {n : Nat} {c : Column} (positive : n ≠ 0)
    (named : columns[n - 1]? = some c) (rest : String) :
    (Role.written c).Stands ("INSERT INTO scripts (" ++ commas (columns.map Column.text)
      ++ ") VALUES (" ++ commas ((List.range' 1 columns.length).map placeholder) ++ ")"
      ++ rest) n :=
  ⟨columns, rest, rfl, Nat.one_le_iff_ne_zero.mpr positive, named⟩

theorem Command.stands_of_role? {command : Command} {n : Nat} {role : Role}
    (named : command.role? n = some role) : role.Stands command.text n := by
  cases command with
  | insert columns sets =>
    rw [role?] at named
    obtain ⟨positive, found⟩ := Option.ite_none_left_eq_some.mp named
    obtain ⟨c, at_, rfl⟩ := Option.map_eq_some_iff.mp found
    have close : ") ON CONFLICT (" = ")" ++ " ON CONFLICT (" := by decide +kernel
    have whole := Role.stands_written positive at_ (" ON CONFLICT (" ++ Column.name.text
      ++ ") DO UPDATE SET " ++ setText sets ++ " RETURNING " ++ commas (Column.all.map Column.text))
    unfold Command.text
    dsimp only
    rw [close]
    simp only [String.append_assoc] at whole ⊢
    exact whole
  | select conditions order cut =>
    rcases Option.or_eq_some_iff.mp named with found | ⟨_, found⟩
    · have whole := Role.stands_of_conditions found
        ("SELECT " ++ commas (Column.all.map Column.text) ++ " FROM scripts")
        (orderText order ++ cutText cut)
      rwa [← String.append_assoc] at whole
    · exact Role.stands_of_cut found _
  | update sets conditions =>
    have whole := Role.stands_of_conditions named ("UPDATE scripts SET " ++ setText sets) ""
    rwa [String.append_empty] at whole
  | delete conditions =>
    have whole := Role.stands_of_conditions named "DELETE FROM scripts" ""
    rwa [String.append_empty] at whole

end Table

namespace Use

open Table

/-- Two operations differ in nothing but the values that they are given. -/
def SameShape : Use → Use → Prop
  | .put _, .put _ | .get _, .get _ | .softDelete _, .softDelete _ | .hardDelete _, .hardDelete _
  | .loadAll, .loadAll => True
  | .page q, .page r => q.language.isSome = r.language.isSome ∧ q.active.isSome = r.active.isSome ∧
    q.nameStart.isSome = r.nameStart.isSome ∧ q.orderBy = r.orderBy ∧ q.descending = r.descending
  | _, _ => False

def argument? : Use → Role → Option Param
  | .put s, .written c =>
    match c with
    | .name => some (.text s.name)
    | .code => some (.text s.code)
    | .lang => some (.text s.language.tag)
    | .encoded => some (match s.encoding with | some e => .text e.tag | none => .null)
    | .active => some (.bool s.active)
    | .version => some (.int s.version)
    | .createdAt => some (.time s.createdAt.toColumn)
    | .updatedAt => some (.time s.updatedAt.toColumn)
    | .deletedAt => none
  | .get name, .equals .name | .softDelete name, .equals .name | .hardDelete name, .equals .name =>
    some (.text name)
  | .page q, .equals .lang => q.language.map fun l => .text l.tag
  | .page q, .equals .active => q.active.map .bool
  | .page q, .startsWith .name => q.nameStart.map .text
  | .page q, .limit => some (.int q.pageSize)
  | .page q, .offset => some (.int q.pageStart)
  | _, _ => none

/-- A statement carries the values of an operation beside its text, each for its placeholder. -/
structure Carried (use : Use) (s : Statement) : Prop where
  /-- The placeholders are those from 1 to the number of values, each once and in order. -/
  marks : marks s.sql.toList = (List.range' 1 s.params.length).map fun n => (toString n).toList
  /-- A value is the one that is given for what its placeholder is for. -/
  fits : ∀ i p, s.params[i]? = some p →
    ∃ role, role.Stands s.sql (i + 1) ∧ use.argument? role = some p
  /-- Every value that is given has a placeholder. -/
  complete : ∀ role p, use.argument? role = some p →
    ∃ i, s.params[i]? = some p ∧ role.Stands s.sql (i + 1)

def roles : Use → List Role
  | .put _ => writtenColumns.map .written
  | .get _ | .softDelete _ | .hardDelete _ => [.equals .name]
  | .page q =>
    (q.language.toList.map fun _ => .equals .lang)
      ++ (q.active.toList.map fun _ => .equals .active)
      ++ (q.nameStart.toList.map fun _ => .startsWith .name)
      ++ [.limit, .offset]
  | .loadAll => []

section

variable {use use' : Use} {command : Command} {role : Role} {p : Param}

theorem filterConditions_eq {q r : Listing} (language : q.language.isSome = r.language.isSome)
    (active : q.active.isSome = r.active.isSome)
    (start : q.nameStart.isSome = r.nameStart.isSome) :
    filterConditions q = filterConditions r := by
  have present {α : Type} {o o' : Option α} (same : o.isSome = o'.isSome)
      (condition : Nat → Condition) :
      o.toList.map (fun _ => condition) = o'.toList.map fun _ => condition := by
    cases o <;> cases o' <;> first | rfl | cases same
  unfold filterConditions
  rw [present language, present active, present start]

theorem command?_of_sameShape (same : SameShape use use') :
    use.statement.command? = use'.statement.command? := by
  cases use <;> cases use' <;> try first | rfl | exact same.elim
  case page.page =>
    obtain ⟨language, active, start, order, direction⟩ := same
    simp only [statement, Statement.command?, filterConditions_eq language active start, order,
      direction]

theorem map_params (use : Use) : use.statement.params.map some = use.roles.map use.argument? := by
  cases use with
  | page q =>
    obtain ⟨language, active, nameStart, _, _, _, _⟩ := q
    cases language <;> cases active <;> cases nameStart <;> rfl
  | _ => rfl

theorem map_role? (read : use.statement.command? = some command) :
    (List.range' 1 use.roles.length).map command.role? = use.roles.map some := by
  cases use with
  | page q =>
    cases read
    obtain ⟨language, active, nameStart, _, _, _, _⟩ := q
    cases language <;> cases active <;> cases nameStart <;> rfl
  | _ =>
    cases read
    rfl

theorem mem_roles (given : use.argument? role = some p) : role ∈ use.roles := by
  cases use with
  | put s =>
    cases role with
    | written c =>
      refine List.mem_map_of_mem ?_
      cases c with
      | deletedAt => cases given
      | _ => decide
    | _ => cases given
  | get name | softDelete name | hardDelete name =>
    cases role with
    | equals c =>
      cases c with
      | name => exact List.mem_singleton_self _
      | _ => cases given
    | _ => cases given
  | page q =>
    cases role with
    | equals c =>
      cases c with
      | lang | active =>
        obtain ⟨_, present, _⟩ := Option.map_eq_some_iff.mp given
        simp [roles, present]
      | _ => cases given
    | startsWith c =>
      cases c with
      | name =>
        obtain ⟨_, present, _⟩ := Option.map_eq_some_iff.mp given
        simp [roles, present]
      | _ => cases given
    | limit | offset => simp [roles]
    | written c => cases given
  | loadAll => cases given

theorem map_getElem?_params (use : Use) (i : Nat) :
    use.statement.params[i]?.map some = use.roles[i]?.map use.argument? := by
  rw [← List.getElem?_map, map_params, List.getElem?_map]

theorem stands_roles {i : Nat} (at_ : use.roles[i]? = some role) :
    role.Stands use.statement.sql (i + 1) := by
  obtain ⟨command, read⟩ := use.exists_command
  obtain ⟨within, _⟩ := List.getElem?_eq_some_iff.mp at_
  have both := congrArg (·[i]?) (map_role? read)
  simp only [List.getElem?_map, List.getElem?_range' within, at_, Option.map_some, Nat.one_mul,
    Option.some.injEq, Nat.add_comm 1 i] at both
  rw [← text_of_command read]
  exact Command.stands_of_role? both

theorem carried (use : Use) : use.Carried use.statement where
  marks := marks_piecesText (plain_pieces use) 0
  fits i p value := by
    have both := map_getElem?_params use i
    rw [value] at both
    obtain ⟨role, at_, given⟩ := Option.map_eq_some_iff.mp both.symm
    exact ⟨role, stands_roles at_, given⟩
  complete role p given := by
    obtain ⟨i, within, at_⟩ := List.mem_iff_getElem.mp (mem_roles given)
    have place : use.roles[i]? = some role := List.getElem?_eq_some_iff.mpr ⟨within, at_⟩
    have both := map_getElem?_params use i
    rw [place, Option.map_some, given] at both
    obtain ⟨q, value, ⟨⟩⟩ := Option.map_eq_some_iff.mp both
    exact ⟨i, value, stands_roles place⟩

/-- No value stands in the text of a statement. Operations of the same shape ask the same text,
whatever their values are; its placeholders are numbered from 1 on without a gap, and the value that
is bound to each is the one that the operation is given for what stands around it. -/
theorem text_of_sameShape (use use' : Use) (same : SameShape use use') (c c' : Connection) :
    ∃ s s', (use.perform c).2.asked = s :: c.asked ∧ (use'.perform c').2.asked = s' :: c'.asked ∧
      s.sql = s'.sql ∧ use.Carried s ∧ use'.Carried s' := by
  obtain ⟨command, read⟩ := use.exists_command
  have read' := (command?_of_sameShape same).symm.trans read
  exact ⟨use.statement, use'.statement, asked_perform use c, asked_perform use' c',
    (text_of_command read).symm.trans (text_of_command read'), carried use, carried use'⟩

theorem text_of_sameShape_quoted :
    let use : Use := .page { active := some true, nameStart := some "'; DROP TABLE scripts; --$9" }
    let use' : Use := .page { active := some false, nameStart := some "", limit := some 3 }
    ∃ s s', (use.perform (Connection.ofReplies [])).2.asked = [s] ∧
      (use'.perform (Connection.ofReplies [])).2.asked = [s'] ∧
      s.sql = s'.sql ∧ use.Carried s ∧ use'.Carried s' := by
  intro use use'
  exact text_of_sameShape use use' ⟨rfl, rfl, rfl, rfl, rfl⟩ (Connection.ofReplies [])
    (Connection.ofReplies [])

example : (Statement.page { active := some true, nameStart := some "$1" }).sql =
    "SELECT name, code, lang, encoded, active, version, deleted_at, created_at, updated_at "
      ++ "FROM scripts WHERE deleted_at IS NULL AND active = $1 AND starts_with(name, $2) "
      ++ "ORDER BY name ASC LIMIT $3 OFFSET $4" := by
  decide +kernel

end

end Use
end ScriptHost
