/-
  File:      Uprava/Lib/Relational.lean
  Subject:   Rows with foreign keys, the `delete` statement over them, and programs of such
             statements that remove everything that refers to one row.

  * `Schema.delete`       -- one `delete`, with its cascades and its foreign key checks;
  * `Cond`                -- the `where` clauses: a parameter, `in (select ..)`, `or`;
  * `Purge`               -- a program in which each table loses rows in one statement only;
  * `Apart.execute_append` -- a row that does not lead to the root is passed over;
  * `Purge.purged_iff`    -- when such a program succeeds and removes exactly what refers to its
                             root, directly or through other rows.

  A key without an action is checked when its statement ends, a restricting one when the parent
  goes. A statement finds the children of a row by the row's key, as an index does.

  Columns are those a key, a reference or a condition reads; what else a row holds moves with it.
-/
import Mathlib.Data.List.Basic
import Mathlib.Data.List.Sublists

namespace Uprava.Lib.Relational

/-! ## 1. Schemas and rows -/

/-- A column that refers to rows of a table by one of their columns. -/
structure Link (τ κ : Type) where
  child : τ
  column : κ
  parent : τ
  key : κ
  deriving DecidableEq

inductive OnDelete where
  | noAction | restrict | cascade | setNull
  deriving DecidableEq

structure ForeignKey (τ κ : Type) extends Link τ κ where
  onDelete : OnDelete := .noAction
  deriving DecidableEq

/-- Is no key on the column cleared when its parent goes? -/
def isHard {τ κ : Type} [DecidableEq κ] (foreignKeys : List (ForeignKey τ κ)) (c : κ) : Bool :=
  foreignKeys.all fun fk => fk.onDelete != .setNull || fk.column != c

/-- Foreign keys, and the references no key guards. Cascades go down in rank, and a column that is
    cleared is the column of no other key. -/
structure Schema (τ κ : Type) [DecidableEq κ] where
  foreignKeys : List (ForeignKey τ κ)
  references : List (Link τ κ) := []
  rank : τ → Nat
  depth : Nat
  rank_le : ∀ t, rank t ≤ depth
  cascade_lt : ∀ fk ∈ foreignKeys, fk.onDelete = .cascade → rank fk.child < rank fk.parent
  column_hard : ∀ fk ∈ foreignKeys, fk.onDelete ≠ .setNull → isHard foreignKeys fk.column = true
  key_hard : ∀ fk ∈ foreignKeys, isHard foreignKeys fk.key = true

/-- A column that is not listed is null. -/
structure Row (τ κ ν : Type) where
  table : τ
  columns : List (κ × ν)
  deriving DecidableEq

section Statements

variable {τ κ ν : Type} [DecidableEq τ] [DecidableEq κ] [DecidableEq ν]

def Row.get (r : Row τ κ ν) (c : κ) : Option ν := r.columns.lookup c

/-- Does a row refer to another one by this link? -/
def Link.joins (l : Link τ κ) (r q : Row τ κ ν) : Bool :=
  r.table == l.child && q.table == l.parent &&
    match r.get l.column with
    | some v => q.get l.key == some v
    | none => false

namespace Schema

variable (s : Schema τ κ)

/-- Every reference, guarded by a key or not. -/
def links : List (Link τ κ) := s.foreignKeys.map (·.toLink) ++ s.references

def refers (a : OnDelete) (r q : Row τ κ ν) : Bool :=
  s.foreignKeys.any fun fk => fk.onDelete == a && fk.toLink.joins r q

/-- The rows a statement selects and those that go with them, by so many cascades. -/
def reached (db : List (Row τ κ ν)) (w : Row τ κ ν → Bool) : Nat → List (Row τ κ ν)
  | 0 => db.filter w
  | n + 1 => db.filter fun r => w r || (reached db w n).any (s.refers .cascade r)

/-- Does the row go, when the rows that `w` selects are deleted? -/
def goes (db : List (Row τ κ ν)) (w : Row τ κ ν → Bool) (r : Row τ κ ν) : Bool :=
  w r || (s.reached db w s.depth).any (s.refers .cascade r)

/-- The row, without what refers to a row that is gone by a key that is cleared. -/
def setNull (gone : List (Row τ κ ν)) (r : Row τ κ ν) : Row τ κ ν :=
  { r with columns := r.columns.filter fun c => !s.foreignKeys.any fun fk =>
      fk.onDelete == .setNull && fk.column == c.1 && gone.any (fk.toLink.joins r) }

/-- `delete from .. where w`, or a foreign key fails. -/
def delete (db : List (Row τ κ ν)) (w : Row τ κ ν → Bool) : Option (List (Row τ κ ν)) :=
  let gone := db.filter (s.goes db w)
  let kept := db.filter fun r => !s.goes db w r
  if db.any (fun r => gone.any (s.refers .restrict r)) ||
      kept.any (fun r => gone.any (s.refers .noAction r)) then none
  else some (kept.map (s.setNull gone))

/-- Has each of the row's foreign keys its parent? -/
def hasParents (db : List (Row τ κ ν)) (r : Row τ κ ν) : Bool :=
  s.foreignKeys.all fun fk => r.table != fk.child ||
    match r.get fk.column with
    | some v => db.any fun q => q.table == fk.parent && q.get fk.key == some v
    | none => true

/-- `insert into ..`, or a foreign key fails. -/
def insert (db : List (Row τ κ ν)) (r : Row τ κ ν) : Option (List (Row τ κ ν)) :=
  if s.hasParents db r then some (db ++ [r]) else none

/-- Every foreign key has its parent. -/
def Referential (db : List (Row τ κ ν)) : Prop :=
  ∀ r ∈ db, ∀ fk ∈ s.foreignKeys, r.table = fk.child → ∀ v, r.get fk.column = some v →
    ∃ q ∈ db, q.table = fk.parent ∧ q.get fk.key = some v

end Schema

/-! ## 2. Conditions and programs -/

/-- A `where` clause. The statement's parameter is the key of the row that is removed. -/
inductive Cond (τ κ : Type) where
  /-- `column = ?1`. -/
  | param (column : κ)
  /-- `column in (select selected from table where condition)`. -/
  | inSelect (column : κ) (table : τ) (selected : κ) (condition : Cond τ κ)
  | or (a b : Cond τ κ)
  deriving DecidableEq

namespace Cond

def eval (db : List (Row τ κ ν)) (v : ν) : Cond τ κ → Row τ κ ν → Bool
  | param c, r => r.get c == some v
  | inSelect c t c' w, r =>
    match r.get c with
    | some x => db.any fun q => q.table == t && w.eval db v q && q.get c' == some x
    | none => false
  | or a b, r => a.eval db v r || b.eval db v r

/-- The condition reads tables that lose no row before the `i`-th statement, and no column that a
    key may clear. -/
def reads (s : Schema τ κ) (stage : τ → Nat) (i : Nat) : Cond τ κ → Bool
  | param c => isHard s.foreignKeys c
  | inSelect c t c' w =>
    isHard s.foreignKeys c && isHard s.foreignKeys c' && decide (i ≤ stage t) && w.reads s stage i
  | or a b => a.reads s stage i && b.reads s stage i

/-- What the condition selects of a table refers to the root, directly or through other rows. -/
def linked (s : Schema τ κ) (root : τ) (rootKey : κ) : τ → Cond τ κ → Bool
  | t, param c => (t == root && c == rootKey) || s.links.contains ⟨t, c, root, rootKey⟩
  | t, inSelect c t' c' w => s.links.contains ⟨t, c, t', c'⟩ && w.linked s root rootKey t'
  | t, or a b => a.linked s root rootKey t && b.linked s root rootKey t

end Cond

/-- The alternatives of a condition. -/
def Cond.alternatives : Cond τ κ → List (Cond τ κ)
  | .or a b => a.alternatives ++ b.alternatives
  | c => [c]

structure Statement (τ κ : Type) where
  table : τ
  condition : Cond τ κ
  deriving DecidableEq

def Statement.selects (σ : Statement τ κ) (db : List (Row τ κ ν)) (v : ν) (r : Row τ κ ν) : Bool :=
  r.table == σ.table && σ.condition.eval db v r

/-- The statements one after the other, each on what the one before left. -/
def Schema.execute (s : Schema τ κ) (v : ν) :
    List (Statement τ κ) → List (Row τ κ ν) → Option (List (Row τ κ ν))
  | [], db => some db
  | σ :: rest, db => (s.delete db (σ.selects db v)).bind (s.execute v rest)

/-- A program that removes what refers to a row of `root`. A table's stage is the statement in which
    it loses rows, the number of statements if it loses none. -/
structure Purge (s : Schema τ κ) where
  root : τ
  rootKey : κ
  statements : List (Statement τ κ)
  stage : τ → Nat
  stages : statements.map (fun σ => stage σ.table) = List.range statements.length
  cascade_stage : ∀ fk ∈ s.foreignKeys, fk.onDelete = .cascade → stage fk.child = stage fk.parent
  reads : ∀ σ ∈ statements, σ.condition.reads s stage (stage σ.table) = true
  linked : ∀ σ ∈ statements, σ.condition.linked s root rootKey σ.table = true
  removesRoot : ⟨root, .param rootKey⟩ ∈ statements

namespace Purge

variable {s : Schema τ κ} (p : Purge s)

def selects (db : List (Row τ κ ν)) (v : ν) (r : Row τ κ ν) : Bool :=
  p.statements.any fun σ => σ.selects db v r

/-- Does the program remove the row? -/
def removes (db : List (Row τ κ ν)) (v : ν) (r : Row τ κ ν) : Bool :=
  s.goes db (p.selects db v) r

/-- Do the key's children go, but only after its parents, so that the key fails in between? -/
def isLate (fk : ForeignKey τ κ) : Bool :=
  decide (p.stage fk.child < p.statements.length) &&
    match fk.onDelete with
    | .noAction => p.stage fk.parent < p.stage fk.child
    | .restrict => p.stage fk.parent ≤ p.stage fk.child
    | _ => false

def lateKeys : List (ForeignKey τ κ) := s.foreignKeys.filter p.isLate

/-- Does the condition of the children take every child of a row that the condition of the parents
    takes? -/
def follows (l : Link τ κ) (children parents : Cond τ κ) : Bool :=
  children.alternatives.contains (.inSelect l.column l.parent l.key parents) ||
    (parents == .param l.key && children.alternatives.contains (.param l.column))

/-- Does a row go with its parent by this link, whatever the rows are: by a cascade, or because the
    statement of the children follows the only one that deletes parents? -/
def covers (l : Link τ κ) : Bool :=
  s.foreignKeys.any (fun fk => fk.onDelete == .cascade && fk.toLink == l) ||
    s.foreignKeys.all (fun fk => fk.onDelete != .cascade || fk.child != l.parent) &&
      p.statements.all fun σ => σ.table != l.parent ||
        p.statements.any fun σ' => σ'.table == l.child && follows l σ'.condition σ.condition

/-- The links that the program does not follow. -/
def gaps : List (Link τ κ) := s.links.filter fun l => !p.covers l

end Purge

/-- A row refers to the row of `root` with the key `v`, directly or through other rows, or is it. -/
inductive Belongs (s : Schema τ κ) (root : τ) (rootKey : κ) (db : List (Row τ κ ν)) (v : ν) :
    Row τ κ ν → Prop where
  | root {r} (hr : r ∈ db) (htable : r.table = root) (hkey : r.get rootKey = some v) :
      Belongs s root rootKey db v r
  | link {r q} (hr : r ∈ db) (hq : Belongs s root rootKey db v q) (l : Link τ κ)
      (hl : l ∈ s.links) (hjoins : l.joins r q = true) : Belongs s root rootKey db v r

/-- What is left is what does not refer to the root, and all of it, unchanged. -/
structure Purged (s : Schema τ κ) (root : τ) (rootKey : κ) (db : List (Row τ κ ν)) (v : ν)
    (db' : List (Row τ κ ν)) : Prop where
  unchanged : db'.Sublist db
  complete : ∀ r ∈ db', ¬ Belongs s root rootKey db v r
  others : ∀ r ∈ db, ¬ Belongs s root rootKey db v r → r ∈ db'

/-! ## 3. The rows that go -/

section Goes

/-- A selected row goes, and what refers to a row that goes by a cascade. -/
inductive Goes (s : Schema τ κ) (db : List (Row τ κ ν)) (w : Row τ κ ν → Bool) :
    Row τ κ ν → Prop where
  | selected {r} (hr : r ∈ db) (hw : w r = true) : Goes s db w r
  | cascade {r q} (hr : r ∈ db) (hq : Goes s db w q) (href : s.refers .cascade r q = true) :
      Goes s db w r

variable {s : Schema τ κ} {db : List (Row τ κ ν)} {w : Row τ κ ν → Bool} {r q : Row τ κ ν}

theorem Goes.mem (h : Goes s db w r) : r ∈ db := by
  cases h with
  | selected hr => exact hr
  | cascade hr => exact hr

theorem refers_iff {a : OnDelete} :
    s.refers a r q = true ↔ ∃ fk ∈ s.foreignKeys, fk.onDelete = a ∧ fk.toLink.joins r q = true := by
  simp [Schema.refers]

theorem joins_iff {l : Link τ κ} :
    l.joins r q = true ↔ r.table = l.child ∧ q.table = l.parent ∧
      ∃ v, r.get l.column = some v ∧ q.get l.key = some v := by
  unfold Link.joins
  rw [Bool.and_eq_true, Bool.and_eq_true, beq_iff_eq, beq_iff_eq, and_assoc]
  cases hv : r.get l.column with
  | none => simp
  | some v => simp

theorem rank_lt_of_refers (h : s.refers .cascade r q = true) : s.rank r.table < s.rank q.table := by
  obtain ⟨fk, hfk, ha, hjoins⟩ := refers_iff.mp h
  obtain ⟨hchild, hparent, -⟩ := joins_iff.mp hjoins
  rw [hchild, hparent]
  exact s.cascade_lt fk hfk ha

theorem Goes.of_reached {n : Nat} (h : r ∈ s.reached db w n) : Goes s db w r := by
  induction n generalizing r with
  | zero =>
    obtain ⟨hr, hw⟩ := List.mem_filter.mp h
    exact .selected hr hw
  | succ n ih =>
    obtain ⟨hr, hgo⟩ := List.mem_filter.mp h
    rcases Bool.or_eq_true_iff.mp hgo with hw | hany
    · exact .selected hr hw
    · obtain ⟨q, hq, href⟩ := List.any_eq_true.mp hany
      exact .cascade hr (ih hq) href

/-- A row is reached by as many cascades as there are ranks above it. -/
theorem Goes.reached (h : Goes s db w r) :
    ∀ n, s.depth ≤ n + s.rank r.table → r ∈ s.reached db w n := by
  induction h with
  | selected hr hw =>
    intro n _
    cases n with
    | zero => exact List.mem_filter.mpr ⟨hr, hw⟩
    | succ n => exact List.mem_filter.mpr ⟨hr, by rw [hw, Bool.true_or]⟩
  | @cascade r q hr hq href ih =>
    intro n hn
    have hlt := rank_lt_of_refers href
    have hle := s.rank_le q.table
    cases n with
    | zero => omega
    | succ n =>
      have hmem : q ∈ s.reached db w n := ih n (by omega)
      refine List.mem_filter.mpr ⟨hr, ?_⟩
      have hany : (s.reached db w n).any (s.refers .cascade r) = true :=
        List.any_eq_true.mpr ⟨q, hmem, href⟩
      rw [hany, Bool.or_true]

/-- **What is computed to go is what goes.** -/
theorem goes_iff (hr : r ∈ db) : s.goes db w r = true ↔ Goes s db w r := by
  unfold Schema.goes
  rw [Bool.or_eq_true]
  constructor
  · intro h
    rcases h with hw | hany
    · exact .selected hr hw
    · obtain ⟨q, hq, href⟩ := List.any_eq_true.mp hany
      exact .cascade hr (.of_reached hq) href
  · intro h
    cases h with
    | selected _ hw => exact Or.inl hw
    | @cascade _ q _ hq href =>
      exact Or.inr (List.any_eq_true.mpr ⟨q, hq.reached s.depth (Nat.le_add_right _ _), href⟩)

end Goes

/-! ## 4. Rows that differ in cleared columns only -/

section Alike

variable {s : Schema τ κ} {r r' q q' : Row τ κ ν}

/-- The same row, but for columns that a key may clear. -/
structure Alike (s : Schema τ κ) (r r' : Row τ κ ν) : Prop where
  table : r'.table = r.table
  get : ∀ c, isHard s.foreignKeys c = true → r'.get c = r.get c

omit [DecidableEq τ] [DecidableEq ν] in
theorem Alike.refl (r : Row τ κ ν) : Alike s r r := ⟨rfl, fun _ _ => rfl⟩

omit [DecidableEq τ] [DecidableEq ν] in
theorem Alike.trans {r'' : Row τ κ ν} (h : Alike s r r') (h' : Alike s r' r'') : Alike s r r'' :=
  ⟨h'.table.trans h.table, fun c hc => (h'.get c hc).trans (h.get c hc)⟩

theorem joins_alike {l : Link τ κ} (hr : Alike s r r') (hq : Alike s q q')
    (hcolumn : isHard s.foreignKeys l.column = true) (hkey : isHard s.foreignKeys l.key = true) :
    l.joins r' q' = l.joins r q := by
  unfold Link.joins
  rw [hr.table, hq.table, hr.get _ hcolumn, hq.get _ hkey]

theorem refers_alike {a : OnDelete} (ha : a ≠ .setNull) (hr : Alike s r r') (hq : Alike s q q') :
    s.refers a r' q' = s.refers a r q := by
  refine Bool.eq_iff_iff.mpr ?_
  rw [refers_iff, refers_iff]
  refine exists_congr fun fk => and_congr_right fun hfk => and_congr_right fun hfa => ?_
  rw [joins_alike hr hq (s.column_hard fk hfk (by rw [hfa]; exact ha)) (s.key_hard fk hfk)]

theorem lookup_filter {α β : Type} [DecidableEq α] (p : α → Bool) (l : List (α × β)) (a : α) :
    (l.filter fun c => p c.1).lookup a = if p a then l.lookup a else none := by
  induction l with
  | nil => simp
  | cons c l ih =>
    rw [List.filter_cons]
    by_cases hc : a = c.1
    · subst hc
      cases hp : p c.1 with
      | true =>
        rw [if_pos rfl, if_pos rfl]
        exact List.lookup_cons_self.trans List.lookup_cons_self.symm
      | false =>
        rw [if_neg (by simp), ih, hp]
        rfl
    · have hne : (a == c.1) = false := by simpa using hc
      rw [List.lookup_cons, hne]
      split
      · rw [List.lookup_cons, hne]
        exact ih
      · exact ih

/-- A column is lost if a key on it is cleared. -/
theorem get_setNull (gone : List (Row τ κ ν)) (r : Row τ κ ν) (c : κ) :
    (s.setNull gone r).get c =
      if s.foreignKeys.any (fun fk => fk.onDelete == .setNull && fk.column == c &&
        gone.any (fk.toLink.joins r)) then none else r.get c := by
  have h := lookup_filter (fun c => !s.foreignKeys.any fun fk =>
    fk.onDelete == .setNull && fk.column == c && gone.any (fk.toLink.joins r)) r.columns c
  unfold Schema.setNull Row.get
  rw [h]
  cases s.foreignKeys.any (fun fk => fk.onDelete == .setNull && fk.column == c &&
    gone.any (fk.toLink.joins r)) <;> rfl

theorem alike_setNull (gone : List (Row τ κ ν)) (r : Row τ κ ν) :
    Alike s r (s.setNull gone r) := by
  refine ⟨rfl, fun c hc => ?_⟩
  have hnone : (s.foreignKeys.any fun fk => fk.onDelete == .setNull && fk.column == c &&
      gone.any (fk.toLink.joins r)) = false := by
    rw [List.any_eq_false]
    intro fk hfk
    have hhard := List.all_eq_true.mp hc fk hfk
    by_cases hset : fk.onDelete = .setNull <;> by_cases hcol : fk.column = c <;>
      simp_all
  rw [get_setNull, hnone]
  rfl

/-- A row that refers to nothing that is gone is as it was. -/
theorem setNull_eq_self {gone : List (Row τ κ ν)}
    (h : ∀ fk ∈ s.foreignKeys, fk.onDelete = .setNull → ∀ q ∈ gone, fk.toLink.joins r q = false) :
    s.setNull gone r = r := by
  have hall : ∀ c ∈ r.columns, (!s.foreignKeys.any fun fk =>
      fk.onDelete == .setNull && fk.column == c.1 && gone.any (fk.toLink.joins r)) = true := by
    intro c _
    rw [Bool.not_eq_true', List.any_eq_false]
    intro fk hfk hany
    simp only [Bool.and_eq_true, beq_iff_eq, List.any_eq_true] at hany
    obtain ⟨⟨hset, -⟩, q, hq, hjoins⟩ := hany
    rw [h fk hfk hset q hq] at hjoins
    cases hjoins
  unfold Schema.setNull
  rw [List.filter_eq_self.mpr hall]

end Alike

/-! ## 5. What a statement leaves -/

section Leaves

variable {s : Schema τ κ} {db db' : List (Row τ κ ν)} {w : Row τ κ ν → Bool} {r q : Row τ κ ν}

theorem hasParents_iff : s.hasParents db r = true ↔ ∀ fk ∈ s.foreignKeys, r.table = fk.child →
    ∀ v, r.get fk.column = some v → ∃ q ∈ db, q.table = fk.parent ∧ q.get fk.key = some v := by
  unfold Schema.hasParents
  rw [List.all_eq_true]
  refine forall_congr' fun fk => imp_congr_right fun _ => ?_
  by_cases htable : r.table = fk.child
  · cases hv : r.get fk.column with
    | none => simp
    | some v => simp [htable]
  · simp [htable]

instance : Decidable (s.Referential db) :=
  decidable_of_iff (∀ r ∈ db, s.hasParents db r = true)
    (forall_congr' fun _ => imp_congr_right fun _ => hasParents_iff)

/-- A statement that succeeds leaves the rows that do not go, and no row that refers to one that
    does by a key that is checked. -/
theorem delete_eq_some (h : s.delete db w = some db') :
    (∀ r ∈ db, ∀ q ∈ db, s.goes db w q = true → s.refers .restrict r q = false) ∧
    (∀ r ∈ db, s.goes db w r = false → ∀ q ∈ db, s.goes db w q = true →
      s.refers .noAction r q = false) ∧
    db' = (db.filter fun r => !s.goes db w r).map (s.setNull (db.filter (s.goes db w))) := by
  unfold Schema.delete at h
  dsimp only at h
  split at h
  · cases h
  · rename_i hfree
    rw [Bool.not_eq_true, Bool.or_eq_false_iff, List.any_eq_false, List.any_eq_false] at hfree
    obtain ⟨hrestrict, hnoAction⟩ := hfree
    refine ⟨fun r hr q hq hgo => ?_, fun r hr hkept q hq hgo => ?_, (Option.some.inj h).symm⟩
    · have hany := hrestrict r hr
      rw [Bool.not_eq_true, List.any_eq_false] at hany
      simpa using hany q (List.mem_filter.mpr ⟨hq, hgo⟩)
    · have hany := hnoAction r (List.mem_filter.mpr ⟨hr, by rw [hkept]; rfl⟩)
      rw [Bool.not_eq_true, List.any_eq_false] at hany
      simpa using hany q (List.mem_filter.mpr ⟨hq, hgo⟩)

theorem execute_append {v : ν} (a b : List (Statement τ κ)) (db : List (Row τ κ ν)) :
    s.execute v (a ++ b) db = (s.execute v a db).bind (s.execute v b) := by
  induction a generalizing db with
  | nil => rfl
  | cons σ rest ih =>
    rw [List.cons_append, Schema.execute, Schema.execute, Option.bind_assoc]
    exact congrArg _ (funext fun next => ih next)

/-- A table that no statement is about, and that nothing cascades to, keeps its rows. -/
theorem alike_of_execute {v : ν} {t : τ} {statements : List (Statement τ κ)}
    (hcascade : ∀ fk ∈ s.foreignKeys, fk.onDelete = .cascade → fk.child ≠ t)
    (hstatements : ∀ σ ∈ statements, σ.table ≠ t)
    (hrun : s.execute v statements db = some db') (hq : q ∈ db) (htable : q.table = t) :
    ∃ q' ∈ db', Alike s q q' := by
  induction statements generalizing db q with
  | nil =>
    obtain rfl := Option.some.inj hrun
    exact ⟨q, hq, .refl q⟩
  | cons σ rest ih =>
    obtain ⟨next, hnext, hrest⟩ := Option.bind_eq_some_iff.mp hrun
    obtain ⟨-, -, rfl⟩ := delete_eq_some hnext
    have hstays : s.goes db (σ.selects db v) q = false := by
      cases hgo : s.goes db (σ.selects db v) q with
      | false => rfl
      | true =>
        cases (goes_iff hq).mp hgo with
        | selected _ hw =>
          have hσ : q.table = σ.table := beq_iff_eq.mp (Bool.and_eq_true_iff.mp hw).1
          exact absurd (hσ.symm.trans htable) (hstatements σ (List.mem_cons_self ..))
        | cascade _ _ href =>
          obtain ⟨fk, hfk, ha, hjoins⟩ := refers_iff.mp href
          obtain ⟨hchild, -⟩ := joins_iff.mp hjoins
          exact absurd (hchild.symm.trans htable) (hcascade fk hfk ha)
    have hmem : q ∈ db.filter fun r => !s.goes db (σ.selects db v) r :=
      List.mem_filter.mpr ⟨hq, by rw [hstays]; rfl⟩
    obtain ⟨q', hq', halike⟩ := ih (fun σ' h => hstatements σ' (List.mem_cons_of_mem _ h)) hrest
      (List.mem_map_of_mem hmem) htable
    exact ⟨q', hq', (alike_setNull _ q).trans halike⟩

end Leaves

/-! ## 6. One statement of a program -/

section Steps

variable {s : Schema τ κ} {db : List (Row τ κ ν)} {v : ν} {f : Row τ κ ν → Row τ κ ν}

/-- A condition that reads tables that are whole reads the same of them. -/
theorem Cond.eval_current {keep : Row τ κ ν → Bool} {stage : τ → Nat} {i : Nat}
    (hf : ∀ r, Alike s r (f r)) (hkeep : ∀ r ∈ db, i ≤ stage r.table → keep r = true)
    {c : Cond τ κ} (hreads : c.reads s stage i = true) (r : Row τ κ ν) :
    c.eval ((db.filter keep).map f) v (f r) = c.eval db v r := by
  induction c generalizing r with
  | param c =>
    have hget := (hf r).get c hreads
    simp only [Cond.eval, hget]
  | inSelect c t c' w ih =>
    simp only [Cond.reads, Bool.and_eq_true, decide_eq_true_eq] at hreads
    obtain ⟨⟨⟨hc, hc'⟩, hstage⟩, hw⟩ := hreads
    simp only [Cond.eval, (hf r).get c hc]
    cases r.get c with
    | none => rfl
    | some x =>
      have hrow : ∀ q, ((f q).table == t && w.eval ((db.filter keep).map f) v (f q) &&
          (f q).get c' == some x) = (q.table == t && w.eval db v q && q.get c' == some x) := by
        intro q
        rw [(hf q).table, ih hw q, (hf q).get c' hc']
      refine Bool.eq_iff_iff.mpr ?_
      simp only [List.any_map, List.any_eq_true, List.mem_filter, Function.comp, hrow]
      constructor
      · rintro ⟨q, ⟨hq, -⟩, hsel⟩
        exact ⟨q, hq, hsel⟩
      · intro ⟨q, hq, hsel⟩
        have htable : q.table = t := by
          simp only [Bool.and_eq_true, beq_iff_eq] at hsel
          exact hsel.1.1
        exact ⟨q, ⟨hq, hkeep q hq (by rw [htable]; exact hstage)⟩, hsel⟩
  | or a b iha ihb =>
    obtain ⟨ha, hb⟩ := Bool.and_eq_true_iff.mp hreads
    simp only [Cond.eval, iha ha r, ihb hb r]

namespace Purge

variable (p : Purge s)

/-- Is the row still there before the `i`-th statement? -/
def keeps (db : List (Row τ κ ν)) (v : ν) (i : Nat) (r : Row τ κ ν) : Bool :=
  !(p.removes db v r && decide (p.stage r.table < i))

/-- A key stops the `i`-th statement. -/
def Blocked (db : List (Row τ κ ν)) (v : ν) (i : Nat) : Prop :=
  (∃ r ∈ db, p.keeps db v i r = true ∧ ∃ q ∈ db, p.removes db v q = true ∧
    p.stage q.table = i ∧ s.refers .restrict r q = true) ∨
  ∃ r ∈ db, p.keeps db v (i + 1) r = true ∧ ∃ q ∈ db, p.removes db v q = true ∧
    p.stage q.table = i ∧ s.refers .noAction r q = true

variable {p} {i : Nat} {σ : Statement τ κ} {r : Row τ κ ν}

theorem stage_of_getElem (h : p.statements[i]? = some σ) :
    p.stage σ.table = i ∧ i < p.statements.length := by
  obtain ⟨hi, -⟩ := List.getElem?_eq_some_iff.mp h
  have hat : (p.statements.map fun σ => p.stage σ.table)[i]? =
      (List.range p.statements.length)[i]? := by rw [p.stages]
  rw [List.getElem?_map, h, List.getElem?_range hi] at hat
  exact ⟨by simpa using hat, hi⟩

theorem getElem_stage (h : σ ∈ p.statements) :
    p.statements[p.stage σ.table]? = some σ := by
  obtain ⟨j, hj, hat⟩ := List.getElem_of_mem h
  have hsome : p.statements[j]? = some σ := by rw [List.getElem?_eq_getElem hj, hat]
  rw [(stage_of_getElem hsome).1]
  exact hsome

theorem stage_of_cascade {q : Row τ κ ν} (h : s.refers .cascade r q = true) :
    p.stage r.table = p.stage q.table := by
  obtain ⟨fk, hfk, ha, hjoins⟩ := refers_iff.mp h
  obtain ⟨hchild, hparent, -⟩ := joins_iff.mp hjoins
  rw [hchild, hparent]
  exact p.cascade_stage fk hfk ha

/-- A row that goes is of a table that a statement is about. -/
theorem stage_lt_of_goes (h : Goes s db (p.selects db v) r) :
    p.stage r.table < p.statements.length := by
  induction h with
  | @selected r hr hw =>
    obtain ⟨σ, hσ, hsel⟩ := List.any_eq_true.mp hw
    have htable : r.table = σ.table := beq_iff_eq.mp (Bool.and_eq_true_iff.mp hsel).1
    rw [htable]
    exact (stage_of_getElem (getElem_stage hσ)).2
  | cascade hr hq href ih =>
    rw [stage_of_cascade href]
    exact ih

theorem keeps_of_stage (hi : i ≤ p.stage r.table) : p.keeps db v i r = true := by
  have hnot : ¬ p.stage r.table < i := Nat.not_lt.mpr hi
  simp [keeps, hnot]

theorem selects_current (hf : ∀ r, Alike s r (f r)) (hσ : p.statements[i]? = some σ)
    (r : Row τ κ ν) :
    σ.selects ((db.filter (p.keeps db v i)).map f) v (f r) = σ.selects db v r := by
  have hmem : σ ∈ p.statements := List.mem_of_getElem? hσ
  have hreads := p.reads σ hmem
  rw [(stage_of_getElem hσ).1] at hreads
  unfold Statement.selects
  rw [(hf r).table, Cond.eval_current hf (fun q _ hq => keeps_of_stage hq) hreads r]

/-- **The rows that go in the `i`-th statement.** -/
theorem goes_current (hf : ∀ r, Alike s r (f r)) (hσ : p.statements[i]? = some σ) (hr : r ∈ db)
    (hkeeps : p.keeps db v i r = true) :
    s.goes ((db.filter (p.keeps db v i)).map f)
        (σ.selects ((db.filter (p.keeps db v i)).map f) v) (f r) =
      (p.removes db v r && decide (p.stage r.table = i)) := by
  have hcurrent : ∀ q ∈ db, p.keeps db v i q = true →
      f q ∈ (db.filter (p.keeps db v i)).map f :=
    fun q hq hk => List.mem_map_of_mem (List.mem_filter.mpr ⟨hq, hk⟩)
  refine Bool.eq_iff_iff.mpr ?_
  rw [goes_iff (hcurrent r hr hkeeps), Bool.and_eq_true, decide_eq_true_eq]
  constructor
  · intro h
    have hgoes : ∀ x, Goes s ((db.filter (p.keeps db v i)).map f)
        (σ.selects ((db.filter (p.keeps db v i)).map f) v) x → ∀ r ∈ db, x = f r →
        Goes s db (p.selects db v) r ∧ p.stage r.table = i := by
      intro x hx
      induction hx with
      | selected _ hw =>
        intro r hr hxr
        rw [hxr, selects_current hf hσ] at hw
        refine ⟨.selected hr (List.any_eq_true.mpr ⟨σ, List.mem_of_getElem? hσ, hw⟩), ?_⟩
        have htable : r.table = σ.table := beq_iff_eq.mp (Bool.and_eq_true_iff.mp hw).1
        rw [htable, (stage_of_getElem hσ).1]
      | @cascade x y _ hy href ih =>
        intro r hr hxr
        obtain ⟨q, hq, rfl⟩ := List.mem_map.mp hy.mem
        obtain ⟨hqgoes, hqstage⟩ := ih q (List.mem_filter.mp hq).1 rfl
        rw [hxr, refers_alike (by decide) (hf r) (hf q)] at href
        exact ⟨.cascade hr hqgoes href, (stage_of_cascade href).trans hqstage⟩
    obtain ⟨hgo, hstage⟩ := hgoes _ h r hr rfl
    exact ⟨(goes_iff hr).mpr hgo, hstage⟩
  · intro ⟨hremoves, hstage⟩
    have hgoes : ∀ q, Goes s db (p.selects db v) q → p.stage q.table = i →
        Goes s ((db.filter (p.keeps db v i)).map f)
          (σ.selects ((db.filter (p.keeps db v i)).map f) v) (f q) := by
      intro q hq
      induction hq with
      | @selected q hq hw =>
        intro hqstage
        obtain ⟨σ', hσ', hsel⟩ := List.any_eq_true.mp hw
        have htable : q.table = σ'.table := beq_iff_eq.mp (Bool.and_eq_true_iff.mp hsel).1
        have hsame := getElem_stage hσ'
        rw [← htable, hqstage, hσ] at hsame
        obtain rfl := Option.some.inj hsame
        refine .selected (hcurrent q hq (keeps_of_stage (Nat.le_of_eq hqstage.symm))) ?_
        rw [selects_current hf hσ]
        exact hsel
      | @cascade q q' hq _ href ih =>
        intro hqstage
        have hstage' : p.stage q'.table = i := (stage_of_cascade href).symm.trans hqstage
        refine .cascade (hcurrent q hq (keeps_of_stage (Nat.le_of_eq hqstage.symm))) (ih hstage') ?_
        rw [refers_alike (by decide) (hf q) (hf q')]
        exact href
    exact hgoes r ((goes_iff hr).mp hremoves) hstage

theorem keeps_succ : p.keeps db v (i + 1) r =
    (p.keeps db v i r && !(p.removes db v r && decide (p.stage r.table = i))) := by
  unfold keeps
  cases p.removes db v r with
  | false => rfl
  | true =>
    have hsucc : decide (p.stage r.table < i + 1) =
        (decide (p.stage r.table < i) || decide (p.stage r.table = i)) := by
      rw [← Bool.decide_or, decide_eq_decide]
      omega
    rw [hsucc]
    simp

/-- The rows the `i`-th statement deletes. -/
def gone (p : Purge s) (db : List (Row τ κ ν)) (v : ν) (i : Nat) : List (Row τ κ ν) :=
  db.filter fun r => p.removes db v r && decide (p.stage r.table = i)

theorem mem_gone {q : Row τ κ ν} :
    q ∈ p.gone db v i ↔ q ∈ db ∧ p.removes db v q = true ∧ p.stage q.table = i := by
  simp [gone]

/-- **The `i`-th statement**: a key stops it, or the rows of its stage go. -/
theorem delete_current (hf : ∀ r, Alike s r (f r)) (hσ : p.statements[i]? = some σ) :
    (p.Blocked db v i ∧ s.delete ((db.filter (p.keeps db v i)).map f)
      (σ.selects ((db.filter (p.keeps db v i)).map f) v) = none) ∨
    (¬ p.Blocked db v i ∧ s.delete ((db.filter (p.keeps db v i)).map f)
      (σ.selects ((db.filter (p.keeps db v i)).map f) v) =
        some ((db.filter (p.keeps db v (i + 1))).map fun r =>
          s.setNull ((p.gone db v i).map f) (f r))) := by
  have hgone : ((db.filter (p.keeps db v i)).map f).filter
      (s.goes ((db.filter (p.keeps db v i)).map f)
        (σ.selects ((db.filter (p.keeps db v i)).map f) v)) = (p.gone db v i).map f := by
    rw [List.filter_map, List.filter_filter, gone]
    congr 1
    refine List.filter_congr fun r hr => ?_
    cases hk : p.keeps db v i r with
    | true => rw [Bool.and_true, Function.comp, goes_current hf hσ hr hk]
    | false =>
      have hlt : p.stage r.table < i := by
        by_contra hge
        rw [keeps_of_stage (Nat.not_lt.mp hge)] at hk
        cases hk
      have hne : p.stage r.table ≠ i := Nat.ne_of_lt hlt
      simp [hne]
  have hkept : ((db.filter (p.keeps db v i)).map f).filter
      (fun r => !s.goes ((db.filter (p.keeps db v i)).map f)
        (σ.selects ((db.filter (p.keeps db v i)).map f) v) r) =
      (db.filter (p.keeps db v (i + 1))).map f := by
    rw [List.filter_map, List.filter_filter]
    congr 1
    refine List.filter_congr fun r hr => ?_
    rw [keeps_succ]
    cases hk : p.keeps db v i r with
    | true =>
      rw [Bool.and_true, Bool.true_and]
      simp only [Function.comp]
      rw [goes_current hf hσ hr hk]
    | false => simp
  have hblocked : ((((db.filter (p.keeps db v i)).map f).any fun r =>
        ((p.gone db v i).map f).any (s.refers .restrict r)) ||
      ((db.filter (p.keeps db v (i + 1))).map f).any fun r =>
        ((p.gone db v i).map f).any (s.refers .noAction r)) = true ↔ p.Blocked db v i := by
    rw [Bool.or_eq_true]
    unfold Blocked
    refine or_congr ?_ ?_
    · simp only [List.any_map, List.any_eq_true, List.mem_filter, Function.comp, mem_gone,
        refers_alike (a := .restrict) (by decide) (hf _) (hf _), and_assoc]
    · simp only [List.any_map, List.any_eq_true, List.mem_filter, Function.comp, mem_gone,
        refers_alike (a := .noAction) (by decide) (hf _) (hf _), and_assoc]
  unfold Schema.delete
  dsimp only
  rw [hgone, hkept]
  by_cases hb : p.Blocked db v i
  · rw [if_pos (hblocked.mpr hb)]
    exact Or.inl ⟨hb, rfl⟩
  · rw [if_neg fun h => hb (hblocked.mp h), List.map_map]
    exact Or.inr ⟨hb, rfl⟩

/-! ## 7. The program -/

theorem keeps_length (hr : r ∈ db) : p.keeps db v p.statements.length r = !p.removes db v r := by
  unfold keeps
  cases hremoves : p.removes db v r with
  | false => rfl
  | true => simp [stage_lt_of_goes ((goes_iff hr).mp hremoves)]

/-- A program that succeeds was stopped by no key, and what it leaves is what it does not remove,
    but for columns that were cleared. -/
theorem execute_some {rest : List (Statement τ κ)} {result : List (Row τ κ ν)}
    (hrest : p.statements.drop i = rest) (hi : i ≤ p.statements.length)
    (hf : ∀ r, Alike s r (f r))
    (h : s.execute v rest ((db.filter (p.keeps db v i)).map f) = some result) :
    (∀ j, i ≤ j → j < p.statements.length → ¬ p.Blocked db v j) ∧
      ∃ g : Row τ κ ν → Row τ κ ν, result = (db.filter fun r => !p.removes db v r).map g := by
  induction rest generalizing i f with
  | nil =>
    have hlength : i = p.statements.length :=
      Nat.le_antisymm hi (List.drop_eq_nil_iff.mp hrest)
    obtain rfl := Option.some.inj h
    refine ⟨fun j hij hj => absurd hj (by omega), f, ?_⟩
    rw [hlength, List.filter_congr fun r hr => keeps_length hr]
  | cons σ rest ih =>
    have hσ : p.statements[i]? = some σ := by
      have hhead := congrArg List.head? hrest
      rwa [List.head?_drop] at hhead
    have hdrop : p.statements.drop (i + 1) = rest := by
      rw [← List.tail_drop, hrest]
      rfl
    obtain ⟨next, hnext, h⟩ := Option.bind_eq_some_iff.mp h
    rcases delete_current hf hσ with ⟨-, hnone⟩ | ⟨hfree, hsome⟩
    · rw [hnone] at hnext
      cases hnext
    · rw [hsome] at hnext
      obtain rfl := Option.some.inj hnext
      obtain ⟨hlater, hresult⟩ := ih hdrop (stage_of_getElem hσ).2
        (fun r => (hf r).trans (alike_setNull _ (f r))) h
      refine ⟨fun j hij hj => ?_, hresult⟩
      rcases Nat.eq_or_lt_of_le hij with rfl | hlt
      · exact hfree
      · exact hlater j hlt hj

/-- A program that no key stops leaves what it does not remove, unchanged where nothing else refers
    to what it removes. -/
theorem execute_of_free {rest : List (Statement τ κ)} (hrest : p.statements.drop i = rest)
    (hi : i ≤ p.statements.length) (hf : ∀ r, Alike s r (f r))
    (hfix : ∀ r ∈ db, p.removes db v r = false → f r = r)
    (hfree : ∀ j, j < p.statements.length → ¬ p.Blocked db v j)
    (hclosed : ∀ r ∈ db, ∀ q ∈ db, p.removes db v q = true → ∀ l ∈ s.links,
      l.joins r q = true → p.removes db v r = true) :
    s.execute v rest ((db.filter (p.keeps db v i)).map f) =
      some (db.filter fun r => !p.removes db v r) := by
  induction rest generalizing i f with
  | nil =>
    have hlength : i = p.statements.length :=
      Nat.le_antisymm hi (List.drop_eq_nil_iff.mp hrest)
    have hkept : db.filter (p.keeps db v i) = db.filter fun r => !p.removes db v r := by
      rw [hlength, List.filter_congr fun r hr => keeps_length hr]
    have hsame : (db.filter fun r => !p.removes db v r).map f =
        db.filter fun r => !p.removes db v r := by
      conv_rhs => rw [← List.map_id (db.filter fun r => !p.removes db v r)]
      refine List.map_congr_left fun r hr => ?_
      obtain ⟨hmem, hkeep⟩ := List.mem_filter.mp hr
      exact hfix r hmem (by simpa using hkeep)
    rw [Schema.execute, hkept, hsame]
  | cons σ rest ih =>
    have hσ : p.statements[i]? = some σ := by
      have hhead := congrArg List.head? hrest
      rwa [List.head?_drop] at hhead
    have hdrop : p.statements.drop (i + 1) = rest := by
      rw [← List.tail_drop, hrest]
      rfl
    rcases (@delete_current _ _ _ _ _ _ _ db v) hf hσ with ⟨hblocked, -⟩ | ⟨-, hsome⟩
    · exact absurd hblocked (hfree i (stage_of_getElem hσ).2)
    · rw [Schema.execute, hsome, Option.bind_some]
      refine ih hdrop (stage_of_getElem hσ).2 (fun r => (hf r).trans (alike_setNull _ (f r))) ?_
      intro r hr hremoves
      rw [hfix r hr hremoves]
      refine setNull_eq_self fun fk hfk hset q' hq' => ?_
      obtain ⟨q, hq, rfl⟩ := List.mem_map.mp hq'
      obtain ⟨hqmem, hqremoves, -⟩ := mem_gone.mp hq
      cases hjoins : fk.toLink.joins r (f q) with
      | false => rfl
      | true =>
        have hjoins' : fk.toLink.joins r q = true := by
          obtain ⟨hchild, hparent, x, hx, hkey⟩ := joins_iff.mp hjoins
          rw [(hf q).table] at hparent
          rw [(hf q).get _ (s.key_hard fk hfk)] at hkey
          exact joins_iff.mpr ⟨hchild, hparent, x, hx, hkey⟩
        have hlink : fk.toLink ∈ s.links :=
          List.mem_append_left _ (List.mem_map_of_mem hfk)
        rw [hclosed r hr q hqmem hqremoves _ hlink hjoins'] at hremoves
        cases hremoves

/-! ## 8. What is removed refers to the root -/

/-- What refers to a row that is removed is removed. -/
def Closed (p : Purge s) (db : List (Row τ κ ν)) (v : ν) : Prop :=
  ∀ r ∈ db, ∀ q ∈ db, p.removes db v q = true → ∀ l ∈ s.links, l.joins r q = true →
    p.removes db v r = true

/-- What refers to a row that is removed is removed, by a link the program does not follow. -/
def Covered (p : Purge s) (db : List (Row τ κ ν)) (v : ν) : Prop :=
  ∀ r ∈ db, ∀ q ∈ db, p.removes db v q = true → ∀ l ∈ p.gaps, l.joins r q = true →
    p.removes db v r = true

/-- No removed row refers to another one by a late key. -/
def Orderly (p : Purge s) (db : List (Row τ κ ν)) (v : ν) : Prop :=
  ∀ r ∈ db, ∀ q ∈ db, p.removes db v r = true → p.removes db v q = true →
    ∀ fk ∈ p.lateKeys, fk.toLink.joins r q = false

instance : Decidable (p.Covered db v) :=
  inferInstanceAs (Decidable (∀ r ∈ db, ∀ q ∈ db, p.removes db v q = true → ∀ l ∈ p.gaps,
    l.joins r q = true → p.removes db v r = true))

instance : Decidable (p.Orderly db v) :=
  inferInstanceAs (Decidable (∀ r ∈ db, ∀ q ∈ db, p.removes db v r = true →
    p.removes db v q = true → ∀ fk ∈ p.lateKeys, fk.toLink.joins r q = false))

theorem eval_of_alternative {c a : Cond τ κ} (ha : a ∈ c.alternatives)
    (h : a.eval db v r = true) : c.eval db v r = true := by
  induction c with
  | param _ =>
    rw [List.mem_singleton.mp ha] at h
    exact h
  | inSelect _ _ _ _ _ =>
    rw [List.mem_singleton.mp ha] at h
    exact h
  | or b c ihb ihc =>
    rw [Cond.eval, Bool.or_eq_true]
    rcases List.mem_append.mp ha with ha | ha
    · exact Or.inl (ihb ha)
    · exact Or.inr (ihc ha)

theorem eval_of_follows {l : Link τ κ} {children parents : Cond τ κ} {q : Row τ κ ν}
    (h : follows l children parents = true) (hq : q ∈ db) (hparents : parents.eval db v q = true)
    (hjoins : l.joins r q = true) : children.eval db v r = true := by
  obtain ⟨-, hqtable, x, hx, hkey⟩ := joins_iff.mp hjoins
  rcases Bool.or_eq_true_iff.mp h with hselect | hparam
  · refine eval_of_alternative (List.contains_iff_mem.mp hselect) ?_
    rw [Cond.eval, hx]
    refine List.any_eq_true.mpr ⟨q, hq, ?_⟩
    rw [hqtable, hparents, hkey]
    simp
  · obtain ⟨hself, hcolumn⟩ := Bool.and_eq_true_iff.mp hparam
    rw [beq_iff_eq.mp hself, Cond.eval, hkey] at hparents
    refine eval_of_alternative (List.contains_iff_mem.mp hcolumn) ?_
    rw [Cond.eval, hx]
    exact hparents

theorem removes_of_covers {l : Link τ κ} {q : Row τ κ ν} (hcovers : p.covers l = true)
    (hr : r ∈ db) (hq : q ∈ db) (hqr : p.removes db v q = true) (hjoins : l.joins r q = true) :
    p.removes db v r = true := by
  obtain ⟨hchild, hqtable, -⟩ := joins_iff.mp hjoins
  have hqgoes := (goes_iff hq).mp hqr
  refine (goes_iff hr).mpr ?_
  rcases Bool.or_eq_true_iff.mp hcovers with hcascade | hfollows
  · obtain ⟨fk, hfk, hboth⟩ := List.any_eq_true.mp hcascade
    rw [Bool.and_eq_true, beq_iff_eq, beq_iff_eq] at hboth
    obtain ⟨ha, rfl⟩ := hboth
    exact .cascade hr hqgoes (refers_iff.mpr ⟨fk, hfk, ha, hjoins⟩)
  · obtain ⟨honly, hall⟩ := Bool.and_eq_true_iff.mp hfollows
    cases hqgoes with
    | selected _ hw =>
      obtain ⟨σ, hσ, hsel⟩ := List.any_eq_true.mp hw
      obtain ⟨hσtable, heval⟩ := Bool.and_eq_true_iff.mp hsel
      have hparent : σ.table = l.parent := (beq_iff_eq.mp hσtable).symm.trans hqtable
      have hany := List.all_eq_true.mp hall σ hσ
      simp only [hparent, bne_self_eq_false, Bool.false_or] at hany
      obtain ⟨σ', hσ', hboth⟩ := List.any_eq_true.mp hany
      obtain ⟨hσ'table, hfollow⟩ := Bool.and_eq_true_iff.mp hboth
      refine .selected hr (List.any_eq_true.mpr ⟨σ', hσ', ?_⟩)
      rw [Statement.selects, hchild, beq_iff_eq.mp hσ'table, beq_self_eq_true, Bool.true_and]
      exact eval_of_follows hfollow hq heval hjoins
    | cascade _ _ href =>
      obtain ⟨fk, hfk, ha, hfkjoins⟩ := refers_iff.mp href
      have hnot := List.all_eq_true.mp honly fk hfk
      rw [ha, ← (joins_iff.mp hfkjoins).1, hqtable] at hnot
      simp at hnot

/-- Only the links the program does not follow can keep something back. -/
theorem closed_iff_covered : p.Closed db v ↔ p.Covered db v := by
  constructor
  · intro h r hr q hq hqr l hl hjoins
    exact h r hr q hq hqr l (List.mem_filter.mp hl).1 hjoins
  · intro h r hr q hq hqr l hl hjoins
    cases hcovers : p.covers l with
    | true => exact removes_of_covers hcovers hr hq hqr hjoins
    | false =>
      exact h r hr q hq hqr l (List.mem_filter.mpr ⟨hl, by rw [hcovers]; rfl⟩) hjoins

theorem belongs_of_condition (hroot : ∃ q ∈ db, q.table = p.root ∧ q.get p.rootKey = some v)
    {c : Cond τ κ} {t : τ} (hlinked : c.linked s p.root p.rootKey t = true) (hr : r ∈ db)
    (htable : r.table = t) (hsel : c.eval db v r = true) :
    Belongs s p.root p.rootKey db v r := by
  induction c generalizing r t with
  | param c =>
    have hget : r.get c = some v := by simpa [Cond.eval] using hsel
    rcases Bool.or_eq_true_iff.mp hlinked with hself | hlink
    · obtain ⟨ht, hc⟩ := Bool.and_eq_true_iff.mp hself
      rw [beq_iff_eq] at ht hc
      rw [hc] at hget
      exact .root hr (htable.trans ht) hget
    · obtain ⟨q, hq, hqtable, hqkey⟩ := hroot
      have hl : (⟨t, c, p.root, p.rootKey⟩ : Link τ κ) ∈ s.links := by simpa using hlink
      exact .link hr (.root hq hqtable hqkey) _ hl
        (joins_iff.mpr ⟨htable, hqtable, v, hget, hqkey⟩)
  | inSelect c t' c' w ih =>
    obtain ⟨hlink, hw⟩ := Bool.and_eq_true_iff.mp hlinked
    have hl : (⟨t, c, t', c'⟩ : Link τ κ) ∈ s.links := by simpa using hlink
    unfold Cond.eval at hsel
    split at hsel
    · rename_i x hx
      obtain ⟨q, hq, hqsel⟩ := List.any_eq_true.mp hsel
      simp only [Bool.and_eq_true, beq_iff_eq] at hqsel
      obtain ⟨⟨hqtable, hqcond⟩, hqkey⟩ := hqsel
      exact .link hr (ih hw hq hqtable hqcond) _ hl
        (joins_iff.mpr ⟨htable, hqtable, x, hx, hqkey⟩)
    · cases hsel
  | or a b iha ihb =>
    obtain ⟨ha, hb⟩ := Bool.and_eq_true_iff.mp hlinked
    rcases Bool.or_eq_true_iff.mp hsel with hsel | hsel
    · exact iha ha hr htable hsel
    · exact ihb hb hr htable hsel

theorem belongs_of_removes (hroot : ∃ q ∈ db, q.table = p.root ∧ q.get p.rootKey = some v)
    (hr : r ∈ db) (h : p.removes db v r = true) : Belongs s p.root p.rootKey db v r := by
  have hgoes := (goes_iff hr).mp h
  clear h
  induction hgoes with
  | selected hr hw =>
    obtain ⟨σ, hσ, hsel⟩ := List.any_eq_true.mp hw
    obtain ⟨htable, hcond⟩ := Bool.and_eq_true_iff.mp hsel
    exact belongs_of_condition hroot (p.linked σ hσ) hr (beq_iff_eq.mp htable) hcond
  | cascade hr hq href ih =>
    obtain ⟨fk, hfk, -, hjoins⟩ := refers_iff.mp href
    exact .link hr (ih hq.mem) _ (List.mem_append_left _ (List.mem_map_of_mem hfk)) hjoins

/-- Where nothing else refers to what is removed, all that belongs is removed. -/
theorem removes_of_belongs (hclosed : p.Closed db v) (h : Belongs s p.root p.rootKey db v r) :
    r ∈ db ∧ p.removes db v r = true := by
  induction h with
  | @root r hr htable hkey =>
    refine ⟨hr, (goes_iff hr).mpr (.selected hr (List.any_eq_true.mpr
      ⟨_, p.removesRoot, ?_⟩))⟩
    simp [Statement.selects, Cond.eval, htable, hkey]
  | @link r q hr hq l hl hjoins ih => exact ⟨hr, hclosed r hr q ih.1 ih.2 l hl hjoins⟩

/-- Rows that leave in order are blocked by no key. -/
theorem not_blocked (hclosed : p.Closed db v) (horderly : p.Orderly db v) (j : Nat) :
    ¬ p.Blocked db v j := by
  have hremoves : ∀ {a : OnDelete} {r q : Row τ κ ν}, r ∈ db → q ∈ db →
      p.removes db v q = true → s.refers a r q = true → ∃ fk ∈ s.foreignKeys,
        fk.onDelete = a ∧ fk.toLink.joins r q = true ∧ p.removes db v r = true := by
    intro a r q hr hq hqr href
    obtain ⟨fk, hfk, ha, hjoins⟩ := refers_iff.mp href
    exact ⟨fk, hfk, ha, hjoins, hclosed r hr q hq hqr _
      (List.mem_append_left _ (List.mem_map_of_mem hfk)) hjoins⟩
  rintro (⟨r, hr, hkeeps, q, hq, hqr, hstage, href⟩ | ⟨r, hr, hkeeps, q, hq, hqr, hstage, href⟩)
  · obtain ⟨fk, hfk, ha, hjoins, hrr⟩ := hremoves hr hq hqr href
    have hlt := stage_lt_of_goes ((goes_iff hr).mp hrr)
    obtain ⟨hchild, hparent, -⟩ := joins_iff.mp hjoins
    rw [hchild] at hlt
    have hle : j ≤ p.stage fk.child := by
      rw [keeps, hrr, hchild] at hkeeps
      simpa using hkeeps
    have hlate : fk ∈ p.lateKeys := by
      refine List.mem_filter.mpr ⟨hfk, ?_⟩
      rw [isLate, ha, ← hparent, hstage]
      simp [hlt, hle]
    rw [horderly r hr q hq hrr hqr fk hlate] at hjoins
    cases hjoins
  · obtain ⟨fk, hfk, ha, hjoins, hrr⟩ := hremoves hr hq hqr href
    have hlt := stage_lt_of_goes ((goes_iff hr).mp hrr)
    obtain ⟨hchild, hparent, -⟩ := joins_iff.mp hjoins
    rw [hchild] at hlt
    have hle : j + 1 ≤ p.stage fk.child := by
      rw [keeps, hrr, hchild] at hkeeps
      simpa using hkeeps
    have hlate : fk ∈ p.lateKeys := by
      refine List.mem_filter.mpr ⟨hfk, ?_⟩
      rw [isLate, ha, ← hparent, hstage]
      simp [hlt, Nat.lt_of_succ_le hle]
    rw [horderly r hr q hq hrr hqr fk hlate] at hjoins
    cases hjoins

/-- A program that succeeds met no late key between rows it removes. -/
theorem orderly_of_free (hfree : ∀ j, j < p.statements.length → ¬ p.Blocked db v j) :
    p.Orderly db v := by
  intro r hr q hq hrr hqr fk hlate
  obtain ⟨hfk, hisLate⟩ := List.mem_filter.mp hlate
  cases hjoins : fk.toLink.joins r q with
  | false => rfl
  | true =>
    obtain ⟨hchild, hparent, -⟩ := joins_iff.mp hjoins
    have hqlt := stage_lt_of_goes ((goes_iff hq).mp hqr)
    refine absurd ?_ (hfree (p.stage q.table) hqlt)
    rw [isLate, Bool.and_eq_true] at hisLate
    obtain ⟨-, hlate⟩ := hisLate
    split at hlate
    · rename_i ha
      have hlt : p.stage fk.parent < p.stage fk.child := by simpa using hlate
      refine Or.inr ⟨r, hr, keeps_of_stage ?_, q, hq, hqr, rfl,
        refers_iff.mpr ⟨fk, hfk, ha, hjoins⟩⟩
      rw [hchild, hparent]
      exact hlt
    · rename_i ha
      have hle : p.stage fk.parent ≤ p.stage fk.child := by simpa using hlate
      refine Or.inl ⟨r, hr, keeps_of_stage ?_, q, hq, hqr, rfl,
        refers_iff.mpr ⟨fk, hfk, ha, hjoins⟩⟩
      rw [hchild, hparent]
      exact hle
    · cases hlate

/-- A program that leaves exactly what does not belong removes what refers to what it removes. -/
theorem closed_of_purged {g : Row τ κ ν → Row τ κ ν}
    (hroot : ∃ q ∈ db, q.table = p.root ∧ q.get p.rootKey = some v)
    (h : Purged s p.root p.rootKey db v ((db.filter fun r => !p.removes db v r).map g)) :
    p.Closed db v := by
  classical
  intro r hr q hq hqr l hl hjoins
  cases hrr : p.removes db v r with
  | true => rfl
  | false =>
    -- A row that belongs and is not removed makes what is left too long.
    have hbelongs : Belongs s p.root p.rootKey db v r :=
      .link hr (belongs_of_removes hroot hq hqr) l hl hjoins
    have hleft : (((db.filter fun r => !p.removes db v r).map g).filter fun r =>
        decide (¬ Belongs s p.root p.rootKey db v r)) =
        (db.filter fun r => !p.removes db v r).map g :=
      List.filter_eq_self.mpr fun x hx => by simpa using h.complete x hx
    have hsub := h.unchanged.filter fun r => decide (¬ Belongs s p.root p.rootKey db v r)
    rw [hleft] at hsub
    have hle := hsub.length_le
    rw [List.length_map] at hle
    have hfewer : (db.filter fun r => decide (¬ Belongs s p.root p.rootKey db v r)) =
        (db.filter fun r => !p.removes db v r).filter fun r =>
          decide (¬ Belongs s p.root p.rootKey db v r) := by
      rw [List.filter_filter]
      refine List.filter_congr fun x hx => ?_
      cases hxr : p.removes db v x with
      | true => simp [belongs_of_removes hroot hx hxr]
      | false => simp
    rw [hfewer] at hle
    have hlt : ((db.filter fun r => !p.removes db v r).filter fun r =>
        decide (¬ Belongs s p.root p.rootKey db v r)).length <
        (db.filter fun r => !p.removes db v r).length := by
      refine List.length_filter_lt_length_iff_exists.mpr ⟨r, ?_, by simpa using hbelongs⟩
      exact List.mem_filter.mpr ⟨hr, by rw [hrr]; rfl⟩
    omega

/-- **When a program removes exactly what refers to its root**: if and only if it removes what refers
    to what it removes by a link it does not follow, and no key joins removed rows the wrong way
    round. -/
theorem purged_iff (hroot : ∃ q ∈ db, q.table = p.root ∧ q.get p.rootKey = some v) :
    (∃ db', s.execute v p.statements db = some db' ∧ Purged s p.root p.rootKey db v db') ↔
      p.Covered db v ∧ p.Orderly db v := by
  rw [← closed_iff_covered]
  have hstart : (db.filter (p.keeps db v 0)).map id = db := by
    rw [List.map_id]
    exact List.filter_eq_self.mpr fun r _ => keeps_of_stage (Nat.zero_le _)
  have halike : ∀ r : Row τ κ ν, Alike s r (id r) := fun r => Alike.refl r
  constructor
  · intro ⟨db', hrun, hpurged⟩
    rw [← hstart] at hrun
    obtain ⟨hfree, g, rfl⟩ := execute_some (List.drop_zero ..) (Nat.zero_le _) halike hrun
    exact ⟨closed_of_purged hroot hpurged,
      orderly_of_free fun j hj => hfree j (Nat.zero_le j) hj⟩
  · intro ⟨hclosed, horderly⟩
    have hrun := execute_of_free (List.drop_zero ..) (Nat.zero_le _) halike (fun r _ _ => rfl)
      (fun j _ => not_blocked hclosed horderly j) hclosed
    rw [hstart] at hrun
    refine ⟨_, hrun, ⟨List.filter_sublist, fun r hr hbelongs => ?_, fun r hr hnot => ?_⟩⟩
    · obtain ⟨-, hremoves⟩ := removes_of_belongs hclosed hbelongs
      have hkept := (List.mem_filter.mp hr).2
      rw [hremoves] at hkept
      cases hkept
    · refine List.mem_filter.mpr ⟨hr, ?_⟩
      cases hremoves : p.removes db v r with
      | false => rfl
      | true => exact absurd (belongs_of_removes hroot hr hremoves) hnot

end Purge

end Steps

/-! ## 9. A row that has nothing to do with the root -/

section Apart

variable {s : Schema τ κ} {db : List (Row τ κ ν)} {v : ν} {w : Row τ κ ν → Bool}
  {root : τ} {rootKey : κ} {apart : τ → Bool} {r t : Row τ κ ν}

/-- Tables that refer to each other only. -/
def Apart (s : Schema τ κ) (root : τ) (apart : τ → Bool) : Prop :=
  apart root = false ∧ ∀ l ∈ s.links, apart l.child = true → apart l.parent = true

omit [DecidableEq τ] in
theorem Apart.child (h : Apart s root apart) {l : Link τ κ} (hl : l ∈ s.links)
    (hparent : apart l.parent = false) : apart l.child = false := by
  cases hchild : apart l.child with
  | false => rfl
  | true =>
    rw [h.2 l hl hchild] at hparent
    cases hparent

theorem Apart.refers (h : Apart s root apart) {a : OnDelete} {q : Row τ κ ν}
    (href : s.refers a r q = true) (hq : apart q.table = false) : apart r.table = false := by
  obtain ⟨fk, hfk, -, hjoins⟩ := refers_iff.mp href
  obtain ⟨hchild, hparent, -⟩ := joins_iff.mp hjoins
  rw [hparent] at hq
  rw [hchild]
  exact h.child (List.mem_append_left _ (List.mem_map_of_mem hfk)) hq

/-- A statement about a table that leads to the root is about no table apart. -/
theorem Apart.table (h : Apart s root apart) {c : Cond τ κ} {x : τ}
    (hlinked : c.linked s root rootKey x = true) : apart x = false := by
  induction c generalizing x with
  | param c =>
    rcases Bool.or_eq_true_iff.mp hlinked with hself | hlink
    · rw [beq_iff_eq.mp (Bool.and_eq_true_iff.mp hself).1]
      exact h.1
    · exact h.child (List.contains_iff_mem.mp hlink) h.1
  | inSelect c x' c' w ih =>
    obtain ⟨hlink, hw⟩ := Bool.and_eq_true_iff.mp hlinked
    exact h.child (List.contains_iff_mem.mp hlink) (ih hw)
  | or a b iha _ => exact iha (Bool.and_eq_true_iff.mp hlinked).1

theorem Cond.eval_append (h : Apart s root apart) (ht : apart t.table = true) {c : Cond τ κ}
    {x : τ} (hlinked : c.linked s root rootKey x = true) (r : Row τ κ ν) :
    c.eval (db ++ [t]) v r = c.eval db v r := by
  induction c generalizing x r with
  | param c => rfl
  | inSelect c x' c' w ih =>
    obtain ⟨-, hw⟩ := Bool.and_eq_true_iff.mp hlinked
    have hne : (t.table == x') = false := by
      refine beq_false_of_ne fun heq => ?_
      rw [heq, h.table hw] at ht
      cases ht
    unfold Cond.eval
    cases r.get c with
    | none => rfl
    | some y =>
      dsimp only
      rw [List.any_append, List.any_cons, List.any_nil, hne, Bool.false_and, Bool.false_and,
        Bool.or_false, Bool.or_false]
      exact congrArg db.any (funext fun q => by rw [ih hw q])
  | or a b iha ihb =>
    obtain ⟨ha, hb⟩ := Bool.and_eq_true_iff.mp hlinked
    rw [Cond.eval, Cond.eval, iha ha r, ihb hb r]

theorem Apart.goes (h : Apart s root apart) (hw : ∀ r, w r = true → apart r.table = false)
    (hgoes : Goes s db w r) : apart r.table = false := by
  induction hgoes with
  | selected _ hsel => exact hw _ hsel
  | cascade _ _ href ih => exact h.refers href ih

theorem Apart.goes_append (h : Apart s root apart) (ht : apart t.table = true)
    (hw : ∀ r, w r = true → apart r.table = false) (hr : r ∈ db) :
    s.goes (db ++ [t]) w r = s.goes db w r := by
  refine Bool.eq_iff_iff.mpr ?_
  rw [goes_iff (List.mem_append_left _ hr), goes_iff hr]
  have hmem : ∀ q, Goes s (db ++ [t]) w q → q ∈ db := by
    intro q hq
    rcases List.mem_append.mp hq.mem with hmem | hlast
    · exact hmem
    · have happart := h.goes hw hq
      rw [List.mem_singleton.mp hlast, ht] at happart
      cases happart
  clear hr
  constructor
  · intro hgoes
    induction hgoes with
    | selected hr' hsel => exact .selected (hmem _ (.selected hr' hsel)) hsel
    | cascade hr' hq href ih => exact .cascade (hmem _ (.cascade hr' hq href)) ih href
  · intro hgoes
    induction hgoes with
    | selected hr' hsel => exact .selected (List.mem_append_left _ hr') hsel
    | cascade hr' _ href ih => exact .cascade (List.mem_append_left _ hr') ih href

/-- A `delete` passes over a row apart. -/
theorem Apart.delete_append (h : Apart s root apart) (ht : apart t.table = true)
    (hw : ∀ r, w r = true → apart r.table = false) :
    s.delete (db ++ [t]) w = (s.delete db w).map (· ++ [t]) := by
  have hstays : s.goes (db ++ [t]) w t = false := by
    cases hgo : s.goes (db ++ [t]) w t with
    | false => rfl
    | true =>
      have happart := h.goes hw ((goes_iff (by simp)).mp hgo)
      rw [ht] at happart
      cases happart
  have hgone : (db ++ [t]).filter (s.goes (db ++ [t]) w) = db.filter (s.goes db w) := by
    rw [List.filter_append, List.filter_cons, hstays, List.filter_congr fun r hr =>
      h.goes_append ht hw hr]
    simp
  have hkept : (db ++ [t]).filter (fun r => !s.goes (db ++ [t]) w r) =
      db.filter (fun r => !s.goes db w r) ++ [t] := by
    rw [List.filter_append, List.filter_cons, hstays, List.filter_congr fun r hr => by
      rw [h.goes_append ht hw hr]]
    simp
  have hfree : ∀ a, (db.filter (s.goes db w)).any (s.refers a t) = false := by
    intro a
    rw [List.any_eq_false]
    intro q hq href
    obtain ⟨hmem, hgo⟩ := List.mem_filter.mp hq
    have happart := h.refers href (h.goes hw ((goes_iff hmem).mp hgo))
    rw [ht] at happart
    cases happart
  have hsame : s.setNull (db.filter (s.goes db w)) t = t := by
    refine setNull_eq_self fun fk hfk ha q hq => ?_
    cases hjoins : fk.toLink.joins t q with
    | false => rfl
    | true =>
      have hnot := List.any_eq_false.mp (hfree .setNull) q hq
      exact absurd (refers_iff.mpr ⟨fk, hfk, ha, hjoins⟩) hnot
  unfold Schema.delete
  dsimp only
  rw [hgone, hkept, List.any_append, List.any_append, List.any_cons, List.any_cons, List.any_nil,
    List.any_nil, hfree, hfree, List.map_append, List.map_cons, List.map_nil, hsame]
  simp only [Bool.or_false]
  split <;> rfl

/-- **A program passes over a row apart.** -/
theorem Apart.execute_append (h : Apart s root apart) (ht : apart t.table = true)
    {statements : List (Statement τ κ)}
    (hlinked : ∀ σ ∈ statements, σ.condition.linked s root rootKey σ.table = true) :
    s.execute v statements (db ++ [t]) = (s.execute v statements db).map (· ++ [t]) := by
  induction statements generalizing db with
  | nil => rfl
  | cons σ rest ih =>
    have hσ := hlinked σ (List.mem_cons_self ..)
    have hselects : σ.selects (db ++ [t]) v = σ.selects db v := by
      funext r
      rw [Statement.selects, Statement.selects, Cond.eval_append h ht hσ]
    have hw : ∀ r, σ.selects db v r = true → apart r.table = false := by
      intro r hr
      rw [beq_iff_eq.mp (Bool.and_eq_true_iff.mp hr).1]
      exact h.table hσ
    rw [Schema.execute, Schema.execute, hselects, h.delete_append ht hw]
    cases s.delete db (σ.selects db v) with
    | none => rfl
    | some next => exact ih fun σ' hσ' => hlinked σ' (List.mem_cons_of_mem _ hσ')

end Apart

end Statements

end Uprava.Lib.Relational
