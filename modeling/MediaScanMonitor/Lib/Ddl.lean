import MediaScanMonitor.Lib.Columns

/-!
# Databases and the statements that migrate them

A batch of changes is done in place or on a copy that takes the place of the table; the table is
dropped then, and where foreign keys are enforced, this deletes the rows that refer to one of its
rows. Where they are not, a run of statements makes of the tables with their rows what it makes of
the tables without.
-/

namespace Ddl
variable {ν τ υ : Type} [DecidableEq ν] [DecidableEq υ]

/-! ## Statements -/

/-- The tables of a database by their names. -/
abbrev Tables (ν τ υ : Type) := List (ν × Table ν τ υ)

inductive Statement (ν τ υ : Type)
  | createTable (name : ν) (definition : Definition ν τ υ)
  | dropTable (name : ν)
  | batch (table : ν) (changes : List (Change ν τ υ))
  /-- `UPDATE table SET column = new WHERE column = old`. -/
  | update (table column : ν) (old new : υ)

def tableNames (d : Tables ν τ υ) : List ν :=
  d.map Prod.fst

/-- The rows of a table. -/
def rowsOf (d : Tables ν τ υ) (name : ν) : List (Row ν υ) :=
  (d.lookup name).elim [] Table.rows

/-- The rows that a row refers to. -/
def referred (d : Tables ν τ υ) (row : Row ν υ) (r : Reference ν) : List (Row ν υ) :=
  (d.lookup r.table).elim [] fun t => t.rows.filter fun parent =>
    cell row r.column ≠ none ∧ cell parent t.primaryKey = cell row r.column

/-- `PRAGMA foreign_key_check` finds nothing. -/
def intact (d : Tables ν τ υ) : Bool :=
  d.all fun t => t.2.rows.all fun row => t.2.references.all fun r =>
    cell row r.column = none ∨ referred d row r ≠ []

/-- The row refers to a row of a table, or to a row that does so within `depth` references. -/
def depends (d : Tables ν τ υ) (name : ν) : Nat → Definition ν τ υ → Row ν υ → Bool
  | 0, _, _ => false
  | depth + 1, D, row => D.references.any fun r => (referred d row r).any fun parent =>
      r.table = name || (d.lookup r.table).any fun t => depends d name depth t.toDefinition parent

/-- The rows of a table are deleted: what depends on them goes with them, where foreign keys are
enforced. References do not form cycles. -/
def vacate (enforce : Bool) (d : Tables ν τ υ) (name : ν) : Tables ν τ υ :=
  if enforce then
    d.map fun t => if t.1 = name then t else
      (t.1, ⟨t.2.toDefinition, t.2.rows.filter fun row =>
        ¬ depends d name d.length t.2.toDefinition row⟩)
  else d

/-- The row with one value in place of another. -/
def assign (column : ν) (old new : υ) (row : Row ν υ) : Row ν υ :=
  row.map fun entry => if entry = (column, some old) then (column, some new) else entry

namespace Statement

/-- What a statement makes of the table with a name that it neither creates nor drops. -/
def alter (name : ν) (t : Table ν τ υ) : Statement ν τ υ → Option (Table ν τ υ)
  | batch table changes => if table = name then changes.foldlM Change.apply t else some t
  | update table column old new =>
    if table = name then some { t with rows := t.rows.map (assign column old new) } else some t
  | _ => some t

def alterAll (d : Tables ν τ υ) (s : Statement ν τ υ) : Option (Tables ν τ υ) :=
  d.mapM fun t => (s.alter t.1 t.2).map (Prod.mk t.1)

/-- A statement is executed. `copies` are the batches that are done on a copy though they could be
done in place. -/
def run (copies : List (Change ν τ υ) → Bool) (enforce : Bool) (d : Tables ν τ υ) :
    Statement ν τ υ → Option (Tables ν τ υ)
  | createTable name D => if name ∈ tableNames d then none else some (d ++ [(name, ⟨D, []⟩)])
  | dropTable name =>
    if name ∈ tableNames d then some ((vacate enforce d name).filter fun t => t.1 ≠ name) else none
  | batch table changes =>
    if table ∈ tableNames d then
      let vacated := if copies changes || changes.any Change.needsCopy then vacate enforce d table
        else d
      alterAll vacated (batch table changes)
    else none
  | update table column old new =>
    if table ∈ tableNames d then alterAll d (update table column old new) else none

/-- It drops a table, or the original of a copy. -/
def drops (copies : List (Change ν τ υ) → Bool) : Statement ν τ υ → Bool
  | dropTable _ => true
  | batch _ changes => copies changes || changes.any Change.needsCopy
  | _ => false

/-- It changes the columns or the rows of one of these tables. -/
def Alters (names : List ν) : Statement ν τ υ → Prop
  | batch table _ => table ∈ names
  | update table _ _ _ => table ∈ names
  | _ => False

/-- The changes of the columns of a table. -/
def changes (name : ν) : Statement ν τ υ → List (Change ν τ υ)
  | batch table changes => if table = name then changes else []
  | _ => []

variable {copies : List (Change ν τ υ) → Bool} {d d' e : Tables ν τ υ} {s : Statement ν τ υ}
  {ss : List (Statement ν τ υ)}

/-- Where foreign keys are not enforced, a copy is as good as the table itself. -/
lemma run_off (copies copies' : List (Change ν τ υ) → Bool) (d : Tables ν τ υ)
    (s : Statement ν τ υ) : s.run copies false d = s.run copies' false d := by
  cases s with
  | batch table changes =>
    have hvacate : vacate false d table = d := rfl
    simp only [run, hvacate, ite_self]
  | _ => rfl

/-- A statement that drops nothing is the same whether foreign keys are enforced or not. -/
lemma run_of_drops (h : s.drops copies = false) (enforce : Bool) (d : Tables ν τ υ) :
    s.run copies enforce d = s.run copies false d := by
  cases s with
  | dropTable => cases h
  | batch table changes =>
    have h : (copies changes || changes.any Change.needsCopy) = false := h
    simp only [run, h]
    rfl
  | _ => rfl

lemma foldlM_run_of_drops (h : ∀ s ∈ ss, s.drops copies = false) (enforce : Bool)
    (d : Tables ν τ υ) : ss.foldlM (run copies enforce) d = ss.foldlM (run copies false) d := by
  induction ss generalizing d with
  | nil => rfl
  | cons s ss ih =>
    rw [List.foldlM_cons, List.foldlM_cons, run_of_drops (h s List.mem_cons_self)]
    cases s.run copies false d with
    | none => rfl
    | some d' => exact ih (fun s hs => h s (List.mem_cons_of_mem _ hs)) d'

/-- A statement that alters a table does so for this table alone. -/
lemma run_eq (h : s.Alters (tableNames d)) : s.run copies false d = alterAll d s := by
  cases s with
  | createTable => exact h.elim
  | dropTable => exact h.elim
  | batch table changes =>
    have hvacate : vacate false d table = d := rfl
    simp only [run, hvacate, ite_self]
    exact if_pos h
  | update table column old new => exact if_pos h

/-- What statements make of a table that they neither create nor drop. -/
def alters (name : ν) (ss : List (Statement ν τ υ)) (t : Table ν τ υ) : Option (Table ν τ υ) :=
  ss.foldlM (alter name) t

/-- A run alters each table by itself. -/
lemma foldlM_run (h : ∀ s ∈ ss, s.Alters (tableNames d)) :
    ss.foldlM (run copies false) d = d.mapM fun t => (alters t.1 ss t.2).map (Prod.mk t.1) := by
  induction ss generalizing d with
  | nil =>
    show some d = d.mapM fun t => pure (id t)
    rw [List.mapM_pure, List.map_id]
    rfl
  | cons s ss ih =>
    have hstep : ∀ t : ν × Table ν τ υ, (alters t.1 (s :: ss) t.2).map (Prod.mk t.1) =
        ((s.alter t.1 t.2).map (Prod.mk t.1)).bind
          fun t => (alters t.1 ss t.2).map (Prod.mk t.1) := by
      intro t
      unfold alters
      rw [List.foldlM_cons]
      cases s.alter t.1 t.2 with
      | none => rfl
      | some t' => rfl
    rw [List.foldlM_cons, run_eq (h s List.mem_cons_self), funext hstep, ← mapM_bind]
    cases hd : alterAll d s with
    | none =>
      rw [alterAll] at hd
      rw [hd]
      rfl
    | some d' =>
      have hnames : tableNames d' = tableNames d := keys_mapM hd
      rw [alterAll] at hd
      rw [hd]
      exact ih fun s' hs' => hnames ▸ h s' (List.mem_cons_of_mem _ hs')

/-- It changes the columns of one of these tables. -/
def Reshapes (names : List ν) : Statement ν τ υ → Prop
  | batch table changes => table ∈ names ∧ ∀ c ∈ changes, c.indexes = false
  | _ => False

instance (names : List ν) : DecidablePred (Reshapes (τ := τ) (υ := υ) names)
  | batch table changes =>
    inferInstanceAs (Decidable (table ∈ names ∧ ∀ c ∈ changes, c.indexes = false))
  | createTable _ _ => inferInstanceAs (Decidable False)
  | dropTable _ => inferInstanceAs (Decidable False)
  | update _ _ _ _ => inferInstanceAs (Decidable False)

end Statement

open Statement

/-- The tables without their rows. -/
def bare (d : Tables ν τ υ) : Tables ν τ υ :=
  d.map fun t => (t.1, ⟨t.2.toDefinition, []⟩)

/-- The rows of a database in the tables of another one. -/
def fill (d e : Tables ν τ υ) : Tables ν τ υ :=
  e.map fun t => (t.1, ⟨t.2.toDefinition, (rowsOf d t.1).map (refit t.2.columns)⟩)

/-- The table has other columns, but the keys of its rows are what they were. -/
structure Kept (t t' : ν × Table ν τ υ) : Prop where
  name : t'.1 = t.1
  key : t'.2.primaryKey = t.2.primaryKey
  references : t'.2.references = t.2.references
  rows : ∃ f : Row ν υ → Row ν υ, t'.2.rows = t.2.rows.map f ∧ ∀ row ∈ t.2.rows,
    cell (f row) t.2.primaryKey = cell row t.2.primaryKey ∧
      ∀ r ∈ t.2.references, cell (f row) r.column = cell row r.column

variable {copies : List (Change ν τ υ) → Bool} {d d' e : Tables ν τ υ}
  {ss : List (Statement ν τ υ)}

omit [DecidableEq ν] [DecidableEq υ] in
lemma tableNames_bare (d : Tables ν τ υ) : tableNames (bare d) = tableNames d := by
  unfold tableNames bare
  rw [List.map_map]
  rfl

omit [DecidableEq υ] in
/-- What is filled has the definitions of the tables that are filled. -/
lemma bare_fill (d e : Tables ν τ υ) : bare (fill d e) = bare e := by
  unfold bare fill
  rw [List.map_map]
  rfl

lemma alters_eq {names : List ν} (h : ∀ s ∈ ss, s.Reshapes names) (name : ν)
    (t : Table ν τ υ) : alters name ss t = (ss.flatMap (changes name)).foldlM Change.apply t := by
  induction ss generalizing t with
  | nil => rfl
  | cons s ss ih =>
    have hrest := ih fun s hs => h s (List.mem_cons_of_mem _ hs)
    have hs : s.alter name t = (s.changes name).foldlM Change.apply t := by
      cases s with
      | batch table changes =>
        simp only [alter, Statement.changes]
        split
        · rfl
        · rfl
      | _ => exact (h _ List.mem_cons_self).elim
    rw [List.flatMap_cons, List.foldlM_append, ← hs]
    cases hsome : s.alter name t with
    | none =>
      unfold alters
      rw [List.foldlM_cons, hsome]
      rfl
    | some t' =>
      unfold alters
      rw [List.foldlM_cons, hsome]
      exact hrest t'

omit [DecidableEq υ] in
lemma createsNoIndex {names : List ν} (h : ∀ s ∈ ss, s.Reshapes names) (name : ν) :
    ∀ c ∈ ss.flatMap (changes name), c.indexes = false := by
  intro c hc
  obtain ⟨s, hs, hc⟩ := List.mem_flatMap.1 hc
  cases s with
  | batch table changes =>
    simp only [Statement.changes] at hc
    split at hc
    · exact (h _ hs).2 c hc
    · cases hc
  | _ => exact (h _ hs).elim

/-- One table with its rows goes the way that it goes without them. -/
lemma alters_fill {names : List ν} (hss : ∀ s ∈ ss, s.Reshapes names) {t u : ν × Table ν τ υ}
    (hsound : t.2.Sound) (hfits : ∀ row ∈ t.2.rows, Fits t.2.toDefinition row)
    (hfresh : (t.2.names ++ (ss.flatMap (changes t.1)).flatMap Change.added).Nodup)
    (h : (alters t.1 ss ⟨t.2.toDefinition, []⟩).map (Prod.mk t.1) = some u) :
    ∃ D', u = (t.1, ⟨D', []⟩) ∧
      alters t.1 ss t.2 = some ⟨D', t.2.rows.map (refit D'.columns)⟩ ∧
      Kept t (t.1, ⟨D', t.2.rows.map (refit D'.columns)⟩) ∧
      ∀ row ∈ t.2.rows.map (refit D'.columns), Fits D' row := by
  rw [alters_eq hss, Change.foldlM_apply_nil] at h
  obtain ⟨t', ht', rfl⟩ := Option.map_eq_some_iff.1 h
  obtain ⟨D', hD', rfl⟩ := Option.map_eq_some_iff.1 ht'
  obtain ⟨happly, hfits'⟩ := Change.foldlM_apply hD' hfresh (createsNoIndex hss t.1) hfits
  obtain ⟨hsound', hkey, hrefs⟩ := Change.foldlM_define_keys hD' hsound
  refine ⟨D', rfl, (alters_eq hss t.1 t.2).trans happly, ?_, fun row hrow => ?_⟩
  · refine ⟨rfl, hkey, hrefs, refit D'.columns, rfl, fun row hrow => ?_⟩
    have hcell : ∀ name ∈ t.2.names, name ∈ D'.names →
        cell (refit D'.columns row) name = cell row name := by
      intro name hn hn'
      exact cell_refit hsound'.nodup hn' ((hfits row hrow).names ▸ hn)
    refine ⟨hcell _ hsound.key (hkey ▸ hsound'.key), fun r hr => ?_⟩
    exact hcell _ (hsound.references r hr) (hsound'.references r (hrefs ▸ hr))
  · obtain ⟨old, hold, rfl⟩ := List.mem_map.1 hrow
    exact hfits' old hold

/-- What a run makes of tables without rows, it makes of the tables with their rows. -/
lemma foldlM_run_fill (hd : (tableNames d).Nodup) (hsound : ∀ t ∈ d, t.2.Sound)
    (hfits : ∀ t ∈ d, ∀ row ∈ t.2.rows, Fits t.2.toDefinition row)
    (hss : ∀ s ∈ ss, s.Reshapes (tableNames d))
    (hfresh : ∀ t ∈ d, (t.2.names ++ (ss.flatMap (changes t.1)).flatMap Change.added).Nodup)
    (h : ss.foldlM (run copies false) (bare d) = some e) :
    ss.foldlM (run copies false) d = some (fill d e) ∧ List.Forall₂ Kept d (fill d e) ∧
      ∀ t ∈ fill d e, ∀ row ∈ t.2.rows, Fits t.2.toDefinition row := by
  have halters : ∀ s ∈ ss, s.Alters (tableNames d) := by
    intro s hs
    cases s with
    | batch table changes => exact (hss _ hs).1
    | _ => exact (hss _ hs).elim
  rw [foldlM_run ((tableNames_bare d).symm ▸ halters), bare, List.mapM_map] at h
  rw [foldlM_run halters]
  -- the rows are looked up in the whole database, so the induction is on some of its tables
  have hall : ∀ (l : Tables ν τ υ) (e : Tables ν τ υ), l ⊆ d →
      l.mapM (fun t => (alters t.1 ss ⟨t.2.toDefinition, []⟩).map (Prod.mk t.1)) = some e →
      l.mapM (fun t => (alters t.1 ss t.2).map (Prod.mk t.1)) = some (fill d e) ∧
        List.Forall₂ Kept l (fill d e) ∧
        ∀ t ∈ fill d e, ∀ row ∈ t.2.rows, Fits t.2.toDefinition row := by
    intro l
    induction l with
    | nil =>
      intro e _ h
      cases h
      exact ⟨rfl, .nil, fun t ht => (by cases ht)⟩
    | cons t l ih =>
      intro e hl h
      have ht : t ∈ d := hl List.mem_cons_self
      rw [List.mapM_cons] at h
      obtain ⟨u, hu, h⟩ := Option.bind_eq_some_iff.1 h
      obtain ⟨e', he', h⟩ := Option.bind_eq_some_iff.1 h
      cases h
      obtain ⟨D', rfl, halter, hkept, hfits'⟩ :=
        alters_fill hss (hsound t ht) (hfits t ht) (hfresh t ht) hu
      obtain ⟨hrest, hrestkept, hrestfits⟩ :=
        ih e' (fun t ht => hl (List.mem_cons_of_mem _ ht)) he'
      have hrows : rowsOf d t.1 = t.2.rows := by
        unfold rowsOf
        rw [lookup_of_mem hd ht]
        rfl
      have hfill : fill d ((t.1, ⟨D', []⟩) :: e') =
          (t.1, ⟨D', t.2.rows.map (refit D'.columns)⟩) :: fill d e' := by
        rw [← hrows]
        rfl
      rw [hfill]
      refine ⟨?_, .cons hkept hrestkept, List.forall_mem_cons.2 ⟨hfits', hrestfits⟩⟩
      rw [List.mapM_cons, halter, hrest]
      rfl
  exact hall d e (List.Subset.refl d) h

omit [DecidableEq υ] in
/-- What is looked up in tables whose keys are kept. -/
lemma lookup_kept (h : List.Forall₂ Kept d d') (name : ν) :
    (d.lookup name = none ∧ d'.lookup name = none) ∨
      ∃ t t', d.lookup name = some t ∧ d'.lookup name = some t' ∧ Kept (name, t) (name, t') := by
  induction h with
  | nil => exact .inl ⟨rfl, rfl⟩
  | @cons t t' l l' ht _ ih =>
    obtain ⟨n, t⟩ := t
    obtain ⟨n', t'⟩ := t'
    obtain rfl : n' = n := ht.name
    rw [List.lookup_cons, List.lookup_cons]
    by_cases hn : name = n'
    · subst hn
      rw [beq_self_eq_true]
      exact .inr ⟨t, t', rfl, rfl, ht⟩
    · rw [beq_false_of_ne hn]
      exact ih

/-- A row refers to some row exactly if it did so before. -/
lemma referred_kept (h : List.Forall₂ Kept d d') {r : Reference ν} {row row' : Row ν υ}
    (hcell : cell row' r.column = cell row r.column) :
    referred d' row' r ≠ [] ↔ referred d row r ≠ [] := by
  unfold referred
  rcases lookup_kept h r.table with ⟨hd, hd'⟩ | ⟨t, t', hd, hd', hkept⟩
  · rw [hd, hd']
    exact Iff.rfl
  · obtain ⟨f, hrows, hf⟩ := hkept.rows
    have hkey : t'.primaryKey = t.primaryKey := hkept.key
    have hrows : t'.rows = t.rows.map f := hrows
    rw [hd, hd', Option.elim_some, Option.elim_some, hrows, hkey, hcell]
    apply not_congr
    rw [List.filter_eq_nil_iff, List.filter_eq_nil_iff]
    constructor
    · intro hall parent hparent
      rw [← (hf parent hparent).1]
      exact hall _ (List.mem_map_of_mem hparent)
    · intro hall parent hparent
      obtain ⟨old, hold, rfl⟩ := List.mem_map.1 hparent
      rw [(hf old hold).1]
      exact hall old hold

/-- Where the keys are kept, the foreign keys are as intact as before. -/
lemma intact_kept (h : List.Forall₂ Kept d d') : intact d' = intact d := by
  have hall : ∀ {l l' : Tables ν τ υ}, List.Forall₂ Kept l l' →
      (l'.all fun t => t.2.rows.all fun row => t.2.references.all fun r =>
        cell row r.column = none ∨ referred d' row r ≠ []) =
      l.all fun t => t.2.rows.all fun row => t.2.references.all fun r =>
        cell row r.column = none ∨ referred d row r ≠ [] := by
    intro l l' hl
    induction hl with
    | nil => rfl
    | @cons t t' l l' ht _ ih =>
      obtain ⟨f, hrows, hf⟩ := ht.rows
      rw [List.all_cons, List.all_cons, ih, hrows, ht.references, List.all_map]
      congr 1
      rw [Bool.eq_iff_iff, List.all_eq_true, List.all_eq_true]
      refine forall₂_congr fun row hrow => ?_
      rw [Function.comp_apply, List.all_eq_true, List.all_eq_true]
      refine forall₂_congr fun r hr => ?_
      have hcell := (hf row hrow).2 r hr
      rw [decide_eq_true_iff, decide_eq_true_iff, hcell, referred_kept h hcell]
  exact hall h

omit [DecidableEq υ] in
/-- The rows of a table that is filled. -/
lemma rowsOf_fill {name : ν} {t : Table ν τ υ} (h : e.lookup name = some t) (d : Tables ν τ υ) :
    rowsOf (fill d e) name = (rowsOf d name).map (refit t.columns) := by
  have hlookup : (fill d e).lookup name =
      some ⟨t.toDefinition, (rowsOf d name).map (refit t.columns)⟩ := by
    induction e with
    | nil => cases h
    | cons u e ih =>
      rw [List.lookup_cons] at h
      show ((u.1, _) :: fill d e).lookup name = _
      rw [List.lookup_cons]
      split at h
      · next hu =>
        cases h
        rw [eq_of_beq hu]
      · exact ih h
  unfold rowsOf
  rw [hlookup]
  rfl

/-- A row refers to the row that has its key. -/
lemma referred_ne_nil {r : Reference ν} {t : Table ν τ υ}
    (ht : d.lookup r.table = some t) {row parent : Row ν υ} (hparent : parent ∈ t.rows)
    (hcell : cell row r.column ≠ none) (hkey : cell parent t.primaryKey = cell row r.column) :
    referred d row r ≠ [] := by
  unfold referred
  rw [ht]
  exact List.ne_nil_of_mem (List.mem_filter.2 ⟨hparent, decide_eq_true ⟨hcell, hkey⟩⟩)

/-- Nothing is violated where nothing refers to anything. -/
lemma intact_of_nil (h : ∀ t ∈ d, t.2.references = [] ∨ t.2.rows = []) : intact d = true := by
  refine List.all_eq_true.2 fun t ht => List.all_eq_true.2 fun row hrow => ?_
  cases h t ht with
  | inl hrefs =>
    rw [hrefs]
    rfl
  | inr hrows =>
    rw [hrows] at hrow
    cases hrow

/-- A row depends on a table that it refers to, and on what the rows that it refers to depend on. -/
lemma depends_of_refers (hi : intact d = true) {t : ν × Table ν τ υ} (ht : t ∈ d) {row : Row ν υ}
    (hrow : row ∈ t.2.rows) {r : Reference ν} (hr : r ∈ t.2.references)
    (hcell : cell row r.column ≠ none) {name : ν} {depth : Nat}
    (htable : r.table = name ∨ ∃ t, d.lookup r.table = some t ∧
      ∀ parent ∈ t.rows, depends d name depth t.toDefinition parent = true) :
    depends d name (depth + 1) t.2.toDefinition row = true := by
  have hreferred : referred d row r ≠ [] := by
    have hchecks := List.all_eq_true.1 (List.all_eq_true.1 hi t ht) row hrow
    have hcheck := List.all_eq_true.1 hchecks r hr
    exact (of_decide_eq_true hcheck).resolve_left hcell
  obtain ⟨parent, hparent⟩ := List.exists_mem_of_ne_nil _ hreferred
  refine List.any_eq_true.2 ⟨r, hr, List.any_eq_true.2 ⟨parent, hparent, ?_⟩⟩
  rcases htable with htable | ⟨u, hu, hdepends⟩
  · rw [decide_eq_true htable]
    rfl
  · have hmem : parent ∈ u.rows := by
      rw [referred, hu] at hparent
      exact List.mem_of_mem_filter hparent
    rw [hu, Bool.or_eq_true]
    exact .inr (hdepends parent hmem)

/-! ## Updates -/

variable {column : ν} {old new : υ}

lemma lookup_assign (column : ν) (old new : υ) (row : Row ν υ) (name : ν) :
    (assign column old new row).lookup name = (row.lookup name).map fun value =>
      if name = column ∧ value = some old then some new else value := by
  induction row with
  | nil => rfl
  | cons entry row ih =>
    obtain ⟨n, value⟩ := entry
    have hassign : assign column old new ((n, value) :: row) =
        (n, if n = column ∧ value = some old then some new else value) ::
          assign column old new row := by
      unfold assign
      rw [List.map_cons]
      congr 1
      by_cases hc : n = column ∧ value = some old
      · rw [if_pos hc, if_pos (by rw [hc.1, hc.2]), hc.1]
      · rw [if_neg hc, if_neg (by rwa [Prod.mk.injEq])]
    rw [hassign, List.lookup_cons, List.lookup_cons]
    by_cases hn : name = n
    · subst hn
      rw [beq_self_eq_true]
      rfl
    · rw [beq_false_of_ne hn]
      exact ih

/-- The columns of a row stay. -/
lemma assign_names (column : ν) (old new : υ) (row : Row ν υ) :
    (assign column old new row).map Prod.fst = row.map Prod.fst := by
  unfold assign
  rw [List.map_map]
  apply List.map_congr_left
  intro entry _
  rw [Function.comp_apply]
  split
  · next hc => rw [hc]
  · rfl

lemma cell_assign (column : ν) (old new : υ) (row : Row ν υ) (name : ν) :
    cell (assign column old new row) name =
      if name = column ∧ cell row name = some old then some new else cell row name := by
  unfold cell
  rw [lookup_assign]
  cases row.lookup name with
  | none =>
    rw [if_neg (fun h => by cases h.2)]
    rfl
  | some value => rfl

/-- A row without the value stays. -/
lemma assign_of_ne (h : (row.map Prod.fst).Nodup) (hne : cell row column ≠ some old) :
    assign column old new row = row := by
  have hentry : ∀ entry ∈ row,
      (if entry = (column, some old) then (column, some new) else entry) = entry := by
    intro entry hmem
    rw [if_neg]
    rintro rfl
    apply hne
    unfold cell
    rw [lookup_of_mem h hmem]
    rfl
  exact (List.map_congr_left hentry).trans (List.map_id' row)

lemma fits_assign (h : Fits D row) : Fits D (assign column old new row) := by
  constructor
  · rw [assign_names]
    exact h.names
  · intro c hc hnull
    rw [cell_assign]
    split
    · exact Option.some_ne_none new
    · exact h.values c hc hnull

/-- The tables after an UPDATE. -/
def updated (d : Tables ν τ υ) (table column : ν) (old new : υ) : Tables ν τ υ :=
  d.map fun t => (t.1,
    if table = t.1 then { t.2 with rows := t.2.rows.map (assign column old new) } else t.2)

lemma run_update {table : ν} (h : table ∈ tableNames d) :
    Statement.run copies false d (.update table column old new) =
      some (updated d table column old new) := by
  have halters : (Statement.update (τ := τ) table column old new).Alters (tableNames d) := h
  rw [Statement.run_eq halters, Statement.alterAll]
  have hpure : ∀ t : ν × Table ν τ υ,
      ((Statement.update table column old new).alter t.1 t.2).map (Prod.mk t.1) =
        pure (t.1, if table = t.1 then { t.2 with rows := t.2.rows.map (assign column old new) }
          else t.2) := by
    intro t
    rw [Statement.alter]
    split
    · rfl
    · rfl
  rw [funext hpure, List.mapM_pure]
  rfl

lemma bare_updated (d : Tables ν τ υ) (table column : ν) (old new : υ) :
    bare (updated d table column old new) = bare d := by
  unfold bare updated
  rw [List.map_map]
  apply List.map_congr_left
  intro t _
  rw [Function.comp_apply]
  dsimp only
  split
  · rfl
  · rfl

/-- The keys of the rows stay if the column is not one of them. -/
lemma updated_kept {table : ν}
    (h : ∀ t ∈ d, t.1 = table → t.2.primaryKey ≠ column ∧ ∀ r ∈ t.2.references, r.column ≠ column) :
    List.Forall₂ Kept d (updated d table column old new) := by
  unfold updated
  rw [List.forall₂_map_right_iff, List.forall₂_same]
  intro t ht
  by_cases htable : table = t.1
  · obtain ⟨hkey, hrefs⟩ := h t ht htable.symm
    rw [if_pos htable]
    refine ⟨rfl, rfl, rfl, assign column old new, rfl, fun row _ => ?_⟩
    rw [cell_assign, if_neg fun hc => hkey hc.1]
    refine ⟨rfl, fun r hr => ?_⟩
    rw [cell_assign, if_neg fun hc => hrefs r hr hc.1]
  · rw [if_neg htable]
    exact ⟨rfl, rfl, rfl, id, (List.map_id _).symm, fun row _ => ⟨rfl, fun r _ => rfl⟩⟩

lemma rowsOf_updated (d : Tables ν τ υ) (table column : ν) (old new : υ) (name : ν) :
    rowsOf (updated d table column old new) name =
      if table = name then (rowsOf d name).map (assign column old new) else rowsOf d name := by
  induction d with
  | nil => split <;> rfl
  | cons t d ih =>
    obtain ⟨n, t⟩ := t
    unfold rowsOf at ih ⊢
    show ((((n, _) :: updated d table column old new).lookup name).elim [] Table.rows) = _
    rw [List.lookup_cons, List.lookup_cons]
    by_cases hn : name = n
    · subst hn
      rw [beq_self_eq_true]
      show (if table = name then _ else t).rows = _
      split
      · rfl
      · rfl
    · rw [beq_false_of_ne hn]
      exact ih

end Ddl
