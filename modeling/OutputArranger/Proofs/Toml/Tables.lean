import OutputArranger.Toml.Document

/-!
# Tables built from statements

Plain entries become entries of the table that is open, and a list of tables whose headers follow
one another becomes one entry with all of them in order.
-/

namespace OutputArranger.Toml

variable {key : String} {es : Entries}

/-- The entries of a table. -/
abbrev Row := List (String × Value)

/-! ## Finished tables -/

theorem toEntries_eq (es : Entries) : Node.toEntries es = es.map fun e => (e.1, e.2.toValue) := by
  induction es with
  | nil => rfl
  | cons e es ih => rw [Node.toEntries, ih, List.map_cons]

theorem toTables_eq (after : List Value) (items : List Entries) :
    Node.toTables after items =
      items.reverse.map (fun es => .table (Node.toEntries es)) ++ after := by
  induction items generalizing after with
  | nil => rfl
  | cons es items ih => simp [Node.toTables, ih]

/-- The nodes of plain entries. -/
def valueNodes (row : Row) : Entries := row.map fun e => (e.1, .value e.2)

theorem toEntries_valueNodes (row : Row) : Node.toEntries (valueNodes row) = row := by
  simp [toEntries_eq, valueNodes, Node.toValue, Function.comp_def]

/-! ## The table that is open -/

theorem find?_eq_none (hkey : key ∉ es.map (·.1)) : es.find? (·.1 = key) = none := by
  rw [List.find?_eq_none]
  intro e he
  have hne : e.1 ≠ key := fun h => hkey (h ▸ List.mem_map_of_mem he)
  simpa using hne

theorem find?_append_self (hkey : key ∉ es.map (·.1)) (n : Node) :
    (es ++ [(key, n)]).find? (·.1 = key) = some (key, n) := by
  simp [find?_eq_none hkey]

theorem replaceNode_append_self (hkey : key ∉ es.map (·.1)) (m n : Node) :
    replaceNode key n (es ++ [(key, m)]) = es ++ [(key, n)] := by
  have hothers : (es.map fun e => if e.1 = key then (key, n) else e) = es := by
    refine (List.map_congr_left fun e he => ?_).trans (List.map_id es)
    exact if_neg fun h : e.1 = key => hkey (h ▸ List.mem_map_of_mem he)
  rw [replaceNode, List.map_append, hothers]
  simp

/-- What changes inside a table becomes a part of a document around it. -/
structure IsAround (current : List String) (around : Entries → Entries) : Prop where
  inside (f : Entries → Option Entries) (es : Entries) :
    inside current f (around es) = (f es).map around

theorem isAround_document : IsAround [] id where
  inside f es := by simp [Toml.inside, descend]

/-- The table that was opened last stands first in the list of its kind. -/
theorem isAround_listed (hkey : key ∉ es.map (·.1)) (before : List Entries) :
    IsAround [key] fun last => es ++ [(key, .tables (last :: before))] where
  inside f last := by
    simp only [Toml.inside, descend, find?_append_self hkey, replaceNode_append_self hkey]
    cases f last <;> rfl

theorem assign_eq (hkey : key ∉ es.map (·.1)) (v : Value) :
    assign [key] v es = some (es ++ [(key, .value v)]) := by
  have hfree : es.any (·.1 = key) = false := by
    rw [List.any_eq_false]
    intro e he
    simpa using fun h : e.1 = key => hkey (h ▸ List.mem_map_of_mem he)
  simp [assign, descend, hfree]

theorem openListed_new (hkey : key ∉ es.map (·.1)) :
    openListed [key] es = some (es ++ [(key, .tables [[]])]) := by
  simp [openListed, descend, find?_eq_none hkey]

theorem openListed_again (hkey : key ∉ es.map (·.1)) (items : List Entries) :
    openListed [key] (es ++ [(key, .tables items)]) =
      some (es ++ [(key, .tables ([] :: items))]) := by
  simp only [openListed, descend, List.getLast?_singleton, List.dropLast_singleton,
    find?_append_self hkey, replaceNode_append_self hkey]

/-! ## Entries and lists of tables -/

def entryStatements (row : Row) : List Statement := row.map fun e => .entry [e.1] e.2

/-- A header for each table, and its entries below. -/
def tableStatements (key : String) (rows : List Row) : List Statement :=
  rows.flatMap fun row => .listedTable [key] :: entryStatements row

/-- The nodes of a list of tables: none at all for an empty list. -/
def listedNodes (key : String) : List Row → Entries
  | [] => []
  | rows => [(key, .tables (rows.map valueNodes).reverse)]

theorem build_entries {current : List String} {around : Entries → Entries}
    (haround : IsAround current around) (row : Row) (es : Entries)
    (hkeys : (es.map (·.1) ++ row.map (·.1)).Nodup) (more : List Statement) :
    build current (entryStatements row ++ more) (around es) =
      build current more (around (es ++ valueNodes row)) := by
  induction row generalizing es with
  | nil => simp [entryStatements, valueNodes]
  | cons e row ih =>
      have hkey : e.1 ∉ es.map (·.1) := fun he =>
        (List.nodup_append.mp hkeys).2.2 _ he _ List.mem_cons_self rfl
      have hrest : ((es ++ [(e.1, Node.value e.2)]).map (·.1) ++ row.map (·.1)).Nodup := by
        simpa using hkeys
      have hnext := ih _ hrest
      rw [entryStatements, List.map_cons, List.cons_append, build, haround.inside,
        assign_eq hkey, Option.map_some]
      simpa [entryStatements, valueNodes] using hnext

/-- Once a list of tables has begun, all further ones are added to it. -/
theorem build_tables_again (hkey : key ∉ es.map (·.1)) {rows : List Row}
    (hrows : ∀ row ∈ rows, (row.map (·.1)).Nodup) (items : List Entries) (more : List Statement) :
    build [key] (tableStatements key rows ++ more) (es ++ [(key, .tables items)]) =
      build [key] more (es ++ [(key, .tables ((rows.map valueNodes).reverse ++ items))]) := by
  induction rows generalizing items with
  | nil => simp [tableStatements]
  | cons row rows ih =>
      obtain ⟨hrow, hrows⟩ := List.forall_mem_cons.mp hrows
      have hentries := build_entries (isAround_listed hkey items) row [] hrow
        (tableStatements key rows ++ more)
      have hnext := ih hrows (valueNodes row :: items)
      rw [tableStatements, List.flatMap_cons, List.append_assoc, List.cons_append, build,
        openListed_again hkey]
      refine hentries.trans (hnext.trans ?_)
      simp [valueNodes]

/-- A list of tables becomes one entry, or none if it is empty. -/
theorem build_tables (current : List String) {rows : List Row}
    (hkey : rows ≠ [] → key ∉ es.map (·.1)) (hrows : ∀ row ∈ rows, (row.map (·.1)).Nodup)
    (more : List Statement) :
    ∃ current', build current (tableStatements key rows ++ more) es =
      build current' more (es ++ listedNodes key rows) := by
  cases rows with
  | nil => exact ⟨current, by simp [tableStatements, listedNodes]⟩
  | cons row rows =>
      have hkey := hkey (List.cons_ne_nil row rows)
      obtain ⟨hrow, hrows⟩ := List.forall_mem_cons.mp hrows
      have hentries := build_entries (isAround_listed hkey []) row [] hrow
        (tableStatements key rows ++ more)
      have hnext := build_tables_again hkey hrows [valueNodes row] more
      refine ⟨[key], ?_⟩
      rw [tableStatements, List.flatMap_cons, List.append_assoc, List.cons_append, build,
        openListed_new hkey]
      refine hentries.trans (hnext.trans ?_)
      simp [listedNodes]

/-- The entry of a list of tables: none at all for an empty list. -/
def listedRow (key : String) : List Row → Row
  | [] => []
  | rows => [(key, .array (rows.map .table))]

theorem toEntries_listedNodes (key : String) (rows : List Row) :
    Node.toEntries (listedNodes key rows) = listedRow key rows := by
  cases rows with
  | nil => rfl
  | cons row rows =>
      simp [listedNodes, listedRow, Node.toEntries, Node.toValue, toTables_eq, toEntries_valueNodes]

/-! ## Documents -/

theorem toEntries_append (es others : Entries) :
    Node.toEntries (es ++ others) = Node.toEntries es ++ Node.toEntries others := by
  simp [toEntries_eq]

theorem keys_toEntries (es : Entries) : (Node.toEntries es).map (·.1) = es.map (·.1) := by
  simp [toEntries_eq, Function.comp_def]

/-- The statements of several lists of tables. -/
def listStatements (lists : List (String × List Row)) : List Statement :=
  lists.flatMap fun l => tableStatements l.1 l.2

def listedRows (lists : List (String × List Row)) : Row := lists.flatMap fun l => listedRow l.1 l.2

theorem build_lists {lists : List (String × List Row)}
    (hrows : ∀ l ∈ lists, ∀ row ∈ l.2, (row.map (·.1)).Nodup) (current : List String) (es : Entries)
    (hkeys : ((Node.toEntries es ++ listedRows lists).map (·.1)).Nodup) :
    (build current (listStatements lists) es).map Node.toEntries =
      some (Node.toEntries es ++ listedRows lists) := by
  -- Which table was opened last does not matter, since each list begins with a header.
  induction lists generalizing current es with
  | nil => simp [listStatements, listedRows, build]
  | cons l lists ih =>
      obtain ⟨hrow, hrows⟩ := List.forall_mem_cons.mp hrows
      have hkey : l.2 ≠ [] → l.1 ∉ es.map (·.1) := by
        intro hne hmem
        rw [← keys_toEntries] at hmem
        rw [List.map_append, List.nodup_append] at hkeys
        refine hkeys.2.2 _ hmem _ ?_ rfl
        obtain ⟨row, rows, hcons⟩ := List.exists_cons_of_ne_nil hne
        simp [listedRows, hcons, listedRow]
      obtain ⟨current', hbuild⟩ := build_tables current hkey hrow (listStatements lists)
      have hrest : Node.toEntries (es ++ listedNodes l.1 l.2) ++ listedRows lists =
          Node.toEntries es ++ listedRows (l :: lists) := by
        rw [toEntries_append, toEntries_listedNodes, List.append_assoc]
        rfl
      have hnext := ih hrows current' (es ++ listedNodes l.1 l.2) (by rwa [hrest])
      rw [hrest] at hnext
      rw [listStatements, List.flatMap_cons]
      exact (congrArg (Option.map Node.toEntries) hbuild).trans hnext

/-- A document of plain entries and lists of tables has the entries that it is written with. -/
theorem build_document {row : Row} {lists : List (String × List Row)}
    (hkeys : ((row ++ listedRows lists).map (·.1)).Nodup)
    (hrows : ∀ l ∈ lists, ∀ row ∈ l.2, (row.map (·.1)).Nodup) :
    (build [] (entryStatements row ++ listStatements lists) []).map Node.toEntries =
      some (row ++ listedRows lists) := by
  have hplain : (([] : Entries).map (·.1) ++ row.map (·.1)).Nodup := by
    rw [List.map_append] at hkeys
    exact (List.nodup_append.mp hkeys).1
  have hentries := build_entries isAround_document row [] hplain (listStatements lists)
  have hlists := build_lists hrows [] (valueNodes row) (by rwa [toEntries_valueNodes])
  rw [toEntries_valueNodes] at hlists
  exact (congrArg (Option.map Node.toEntries) hentries).trans hlists

end OutputArranger.Toml
