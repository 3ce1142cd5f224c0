import RoutingBench.FailoverTest
import RoutingBench.PythonText
set_option autoImplicit false

/-!
The table of results as the runner prints it, and as run_batch.sh reads it back: parse_runner_rows.
-/

namespace RoutingBench.ResultTable
open PythonText TextFields
open Runner (Row)

section Print

/-- `%-9s`: printf counts the bytes of the value. -/
def padded (width : Nat) (value : String) : List Char :=
  value.toList ++ List.replicate (width - (value.toList.flatMap String.utf8EncodeChar).length) ' '

def widths : List Nat := [9,20,13,12,14,7]

def cell (width : Nat) (value : String) : List Char := ' ' :: (padded width value ++ [' '])

def printCells (values : List String) : List (List Char) :=
  (widths.zip values).map fun column => cell column.1 column.2

/-- `printf "║ %-9s ║ %-20s ║ %-13s ║ %-12s ║ %-14s ║ %-7s ║\n"`, without the end of the line. -/
def printLine (values : List String) : List Char :=
  ((printCells values).flatMap fun text => '║' :: text) ++ ['║']

def titles : List String :=
  ["Iteration","Scenario","Leader Killed","Downtime (s)","Failed Queries","Status"]

/-- `╔═══════════╦══════════════════════╦═══...═╗` and its like. -/
def border (left middle right : Char) : List Char :=
  [left] ++ [middle].intercalate (widths.map fun width => List.replicate (width + 2) '═') ++ [right]

def rowValues (row : Row) : List String :=
  [row.iter,row.scenario,row.leader,row.down,row.failed,row.status]

def tableLines (rows : List Row) : List (List Char) :=
  [border '╔' '╦' '╗',printLine titles,border '╠' '╬' '╣'] ++
    rows.map (fun row => printLine (rowValues row)) ++ [border '╚' '╩' '╝']

/-- What is printed from the `echo` before the table on. -/
def printTable (rows : List Row) : List Char :=
  '\n' :: (tableLines rows).flatMap fun line => line ++ ['\n']

end Print

section Parse

/-- The cells of a line that begins and ends with '║'. -/
def lineCells (line : List Char) : Option (List (List Char)) :=
  let line := strip line
  if line.head? = some '║' && line.getLast? = some '║' then
    some (((stripChar '║' line).splitOn '║').map strip)
  else none

/-- What is read of a line, which is not the header or another line with no row. -/
def parseLine (line : List Char) : Option Row :=
  match lineCells line with
  | some [iteration,scenario,leaderKilled,downtimeS,failedQueries,status] =>
    if iteration = "Iteration".toList then none
    else if isInt iteration then
      some {
        iter := String.ofList iteration
        scenario := String.ofList scenario
        leader := String.ofList leaderKilled
        down := String.ofList downtimeS
        failed := String.ofList failedQueries
        status := String.ofList status }
    else none
  | _ => none

variable (comboDir comboPrefix sessionFolder : String)

def csvFields (row : Row) : List String :=
  [comboDir,comboPrefix,row.scenario,row.iter,row.leader,row.down,row.failed,row.status,
    sessionFolder]

def csvLine (row : Row) : String :=
  ",".intercalate (csvFields comboDir comboPrefix sessionFolder row)

def parseRunnerRows (output : List Char) : List String :=
  ((readlines output).filterMap parseLine).map (csvLine comboDir comboPrefix sessionFolder)

end Parse

/-- Values that are trimmed, and hold no '║', comma or newline. -/
structure PlainValue (value : String) : Prop where
  trimmed : strip value.toList = value.toList
  bar : '║' ∉ value.toList
  comma : ',' ∉ value.toList
  newline : '\n' ∉ value.toList

instance (value : String) : Decidable (PlainValue value) :=
  decidable_of_iff (strip value.toList = value.toList ∧ '║' ∉ value.toList ∧ ',' ∉ value.toList ∧
    '\n' ∉ value.toList)
    ⟨fun ⟨htrimmed,hbar,hcomma,hnewline⟩ => ⟨htrimmed,hbar,hcomma,hnewline⟩,
      fun ⟨htrimmed,hbar,hcomma,hnewline⟩ => ⟨htrimmed,hbar,hcomma,hnewline⟩⟩

/-- A log text without a line of six cells of which the first is an integer. -/
def NoRow (text : List Char) : Prop :=
  ∀ line ∈ readlines text, ∀ cells, lineCells line = some cells → cells.length = 6 →
    ¬∃ first ∈ cells.head?, isInt first = true

section Lines

variable {values : List String} {value : String} {width : Nat} {row : Row} {line : List Char}

theorem strip_cell : strip (cell width value) = strip value.toList := by
  have hspace : ∀ c ∈ [' '], isSpace c = true := List.forall_mem_singleton.mpr (by decide)
  rw [strip,cell,← List.singleton_append,trim_append_left hspace,trim_append_right hspace,padded,
    trim_append_right (isSpace_replicate _),strip]

theorem map_strip_printCells (hlength : values.length = 6) :
    (printCells values).map strip = values.map fun value => strip value.toList := by
  have hvalues : (widths.zip values).map Prod.snd = values :=
    List.map_snd_zip (by simp [hlength,widths])
  calc (printCells values).map strip
      = ((widths.zip values).map Prod.snd).map fun value => strip value.toList := by
        simp only [printCells,List.map_map,Function.comp_def,strip_cell]
    _ = values.map fun value => strip value.toList := by rw [hvalues]

theorem printCells_ne_nil (hlength : values.length = 6) : printCells values ≠ [] := by
  refine List.ne_nil_of_length_pos ?_
  simp [printCells,hlength,widths]

theorem printCells_ends : ∀ text ∈ printCells values,
    text.head? = some ' ' ∧ text.getLast? = some ' ' := by
  refine List.forall_mem_map.mpr fun column _ => ⟨rfl,?_⟩
  rw [cell,← List.cons_append,List.getLast?_concat]

theorem bar_not_mem_printCells (h : ∀ value ∈ values, '║' ∉ value.toList) :
    ∀ text ∈ printCells values, '║' ∉ text := by
  refine List.forall_mem_map.mpr fun column hcolumn => ?_
  have hvalue := h column.2 (List.of_mem_zip hcolumn).2
  simp [cell,padded,hvalue]

/-- The cells of a line are the values, however wide they are. -/
theorem lineCells_printLine (hlength : values.length = 6)
    (hbar : ∀ value ∈ values, '║' ∉ value.toList) :
    lineCells (printLine values) = some (values.map fun value => strip value.toList) := by
  have hne := printCells_ne_nil hlength
  have hline : printLine values = ['║'] ++ ['║'].intercalate (printCells values) ++ ['║'] := by
    rw [printLine,flatMap_cons hne,List.singleton_append]
  have hstripped : strip (printLine values) = printLine values := by
    rw [hline]
    exact trim_between rfl (by decide) rfl (by decide)
  have hinner : stripChar '║' (printLine values) = ['║'].intercalate (printCells values) := by
    rw [hline,stripChar,trim_append_right (by simp),trim_append_left (by simp),trim_eq_self,
      head?_intercalate hne fun text htext => (printCells_ends text htext).1,
      getLast?_intercalate hne fun text htext => (printCells_ends text htext).2]
    simp
  have hbars : (printLine values).head? = some '║' ∧ (printLine values).getLast? = some '║' := by
    rw [hline]
    exact ⟨rfl,List.getLast?_concat⟩
  rw [lineCells,hstripped,hbars.1,hbars.2,hinner,
    List.splitOn_intercalate '║' (bar_not_mem_printCells hbar) hne,map_strip_printCells hlength]
  rfl

theorem not_isInt_header : isInt "Iteration".toList = false := by decide +kernel

theorem parseLine_printLine (hplain : ∀ value ∈ rowValues row, PlainValue value)
    (hint : isInt row.iter.toList = true) : parseLine (printLine (rowValues row)) = some row := by
  have hbar : ∀ value ∈ rowValues row, '║' ∉ value.toList :=
    fun value hvalue => (hplain value hvalue).bar
  have htrimmed : (rowValues row).map (fun value => strip value.toList) =
      (rowValues row).map String.toList :=
    List.map_congr_left fun value hvalue => (hplain value hvalue).trimmed
  have hiteration : row.iter.toList ≠ "Iteration".toList := by
    intro heq
    rw [heq,not_isInt_header] at hint
    contradiction
  rw [parseLine,lineCells_printLine rfl hbar,htrimmed]
  simp only [rowValues,List.map_cons,List.map_nil,String.ofList_toList]
  rw [if_neg hiteration,if_pos hint]

theorem parseLine_nil : parseLine [] = none := by decide

theorem parseLine_newline (line : List Char) : parseLine (line ++ ['\n']) = parseLine line := by
  have hstrip : strip (line ++ ['\n']) = strip line :=
    trim_append_right (List.forall_mem_singleton.mpr (by decide))
  rw [parseLine,lineCells,hstrip,parseLine,lineCells]

theorem parseLine_titles : parseLine (printLine titles) = none := by
  have htrimmed : titles.map (fun title => strip title.toList) = titles.map String.toList := by
    decide
  rw [parseLine,lineCells_printLine rfl (by decide),htrimmed]
  rfl

theorem parseLine_border {left right : Char} (hbar : left ≠ '║') (hleft : isSpace left = false)
    (hright : isSpace right = false) (middle : Char) :
    parseLine (border left middle right) = none := by
  have hstrip : strip (border left middle right) = border left middle right :=
    trim_between rfl hleft rfl hright
  have hhead : (border left middle right).head? ≠ some '║' := by simp [border,hbar]
  rw [parseLine,lineCells,hstrip,if_neg (by simp [hhead])]

theorem not_mem_printLine {c : Char} (hbar : c ≠ '║') (hspace : c ≠ ' ')
    (h : ∀ value ∈ values, c ∉ value.toList) : c ∉ printLine values := by
  rw [printLine,printCells,List.flatMap_map]
  simp only [List.mem_append,List.mem_flatMap,List.mem_cons,List.not_mem_nil,or_false,not_or,
    not_exists,not_and]
  refine ⟨fun column hcolumn => ⟨hbar,?_⟩,hbar⟩
  have hvalue := h column.2 (List.of_mem_zip hcolumn).2
  simp [cell,padded,hvalue,hspace]

end Lines

section Table

variable {rows : List Row} {values : List String} {text before after : List Char}

theorem filterMap_noRow (h : NoRow text) : (readlines text).filterMap parseLine = [] := by
  refine List.filterMap_eq_nil_iff.mpr fun line hline => ?_
  rw [parseLine]
  split
  next first _ _ _ _ _ hcells =>
    have hint : ¬isInt first = true := fun hint => h line hline _ hcells rfl ⟨first,rfl,hint⟩
    rw [if_neg hint,ite_self]
  next => rfl

theorem borders_whole : ∀ line ∈ [border '╔' '╦' '╗',border '╠' '╬' '╣',border '╚' '╩' '╝'],
    '\n' ∉ line ∧ '\r' ∉ line := by
  decide +kernel

theorem printLine_whole (h : ∀ value ∈ values, '\n' ∉ value.toList ∧ '\r' ∉ value.toList) :
    '\n' ∉ printLine values ∧ '\r' ∉ printLine values :=
  ⟨not_mem_printLine (by decide) (by decide) fun value hvalue => (h value hvalue).1,
    not_mem_printLine (by decide) (by decide) fun value hvalue => (h value hvalue).2⟩

theorem tableLines_whole (hplain : ∀ row ∈ rows, ∀ value ∈ rowValues row, PlainValue value)
    (hreturn : ∀ row ∈ rows, ∀ value ∈ rowValues row, '\r' ∉ value.toList) :
    ∀ line ∈ tableLines rows, '\n' ∉ line ∧ '\r' ∉ line := by
  have htitles : '\n' ∉ printLine titles ∧ '\r' ∉ printLine titles :=
    printLine_whole (by decide)
  have hrows : ∀ row ∈ rows, '\n' ∉ printLine (rowValues row) ∧ '\r' ∉ printLine (rowValues row) :=
    fun row hrow => printLine_whole fun value hvalue =>
      ⟨(hplain row hrow value hvalue).newline,hreturn row hrow value hvalue⟩
  have hborders := borders_whole
  simp only [List.forall_mem_cons] at hborders
  obtain ⟨htop,hmiddle,hbottom,-⟩ := hborders
  simp only [tableLines,List.forall_mem_append,List.forall_mem_cons,List.forall_mem_map]
  exact ⟨⟨⟨htop,htitles,hmiddle,by simp⟩,hrows⟩,hbottom,by simp⟩

theorem filterMap_tableLines (hplain : ∀ row ∈ rows, ∀ value ∈ rowValues row, PlainValue value)
    (hint : ∀ row ∈ rows, isInt row.iter.toList = true) :
    (tableLines rows).filterMap parseLine = rows := by
  have htop : parseLine (border '╔' '╦' '╗') = none :=
    parseLine_border (by decide) (by decide) (by decide) _
  have hmiddle : parseLine (border '╠' '╬' '╣') = none :=
    parseLine_border (by decide) (by decide) (by decide) _
  have hbottom : parseLine (border '╚' '╩' '╝') = none :=
    parseLine_border (by decide) (by decide) (by decide) _
  have hrows : (rows.map fun row => printLine (rowValues row)).filterMap parseLine = rows := by
    rw [List.filterMap_map]
    calc rows.filterMap (parseLine ∘ fun row => printLine (rowValues row))
        = rows.filterMap some :=
          List.filterMap_congr fun row hrow => parseLine_printLine (hplain row hrow) (hint row hrow)
      _ = rows := List.filterMap_some
  rw [tableLines,List.filterMap_append,List.filterMap_append,hrows]
  simp [htop,parseLine_titles,hmiddle,hbottom]

/-- The rows of the table are all that is read, in whatever log text the table stands. -/
theorem filterMap_printTable
    (hplain : ∀ row ∈ rows, ∀ value ∈ rowValues row, PlainValue value)
    (hreturn : ∀ row ∈ rows, ∀ value ∈ rowValues row, '\r' ∉ value.toList)
    (hint : ∀ row ∈ rows, isInt row.iter.toList = true) (hbefore : NoRow before)
    (hafter : NoRow after) :
    (readlines (before ++ printTable rows ++ after)).filterMap parseLine = rows := by
  have hreadlines := filterMap_readlines parseLine_nil parseLine_newline
  rw [hreadlines,printTable,List.append_assoc,List.cons_append,
    filterMap_universal parseLine_nil,
    filterMap_flatMap parseLine_nil (tableLines_whole hplain hreturn),
    filterMap_tableLines hplain hint,← hreadlines,← hreadlines,filterMap_noRow hbefore,
    filterMap_noRow hafter,List.nil_append,List.append_nil]

end Table

section Csv

variable {comboDir comboPrefix sessionFolder : String} {row : Row}

theorem mem_csvFields {value : String}
    (h : value ∈ csvFields comboDir comboPrefix sessionFolder row) :
    value ∈ [comboDir,comboPrefix,sessionFolder] ∨ value ∈ rowValues row := by
  simp only [csvFields,rowValues,List.mem_cons,List.not_mem_nil,or_false] at h ⊢
  tauto

theorem toList_csvLine (row : Row) : (csvLine comboDir comboPrefix sessionFolder row).toList =
    [','].intercalate ((csvFields comboDir comboPrefix sessionFolder row).map String.toList) := by
  have hcomma : ",".toList = [','] := by decide
  rw [csvLine,String.toList_intercalate,hcomma]

theorem splitOn_csvLine
    (h : ∀ value ∈ csvFields comboDir comboPrefix sessionFolder row, ',' ∉ value.toList) :
    (csvLine comboDir comboPrefix sessionFolder row).toList.splitOn ',' =
      (csvFields comboDir comboPrefix sessionFolder row).map String.toList := by
  rw [toList_csvLine]
  exact List.splitOn_intercalate ',' (List.forall_mem_map.mpr h) (by simp [csvFields])

theorem newline_not_mem_csvLine
    (h : ∀ value ∈ csvFields comboDir comboPrefix sessionFolder row, '\n' ∉ value.toList) :
    '\n' ∉ (csvLine comboDir comboPrefix sessionFolder row).toList := by
  rw [toList_csvLine]
  intro hmem
  rcases mem_intercalate hmem with hsep | ⟨field,hfield,hnewline⟩
  · contradiction
  · obtain ⟨value,hvalue,rfl⟩ := List.mem_map.mp hfield
    exact h value hvalue hnewline

end Csv

end RoutingBench.ResultTable
