import MarketFeed.Proofs.Program.Verbosity
import MarketFeed.Proofs.Registry.FirstWins

/-!
# The listing of sources

What a listing prints on the output can be read back: the names of the sources and what they are
for, in their order, as long as no description has a second line.  So two listings print the same
exactly if the registries describe the same sources.

* `outputText?`     — what an entry of the journal prints on the output; no threshold counts there.
* `Listed.readBack`     — the sources in a printed listing.
* `readLine_entry`  — a line gives back its name and its description.
* `read_listing`    — the lines of a listing give back the sources.
* `result_performData_list` — what a listing leaves in the journal.
* `Listing.output_eq` — what a whole run prints.
* `listing_faithful` — reading it back.
-/

namespace MarketFeed

namespace Terminal

/-! ## The output -/

/-- The text that an entry prints on the output: what was asked for, but no event. -/
def outputText? (display : Display) : Entry → Option String
  | .told message => if message.stream = .output then some (message.line display.colour) else none
  | .rejected (.version text) => some text
  | .rejected .help => some (display.rejections .help)
  | .completions shell => some (display.completions shell)
  | _ => none

/-- The text of an entry that is for the output. -/
theorem filterMap_entryText? (display : Display) (threshold : Option Severity) (entry : Entry) :
    (entryText? display threshold entry).toList.filterMap
        (fun (s, text) => if s = .output then some text else none) =
      (outputText? display entry).toList := by
  -- an event has its text on the other stream, if it has one
  have hErrors : ∀ text? : Option String,
      (text?.bind fun text => some (Stream.errors, text)).toList.filterMap
        (fun (s, text) => if s = Stream.output then some text else none) = [] := by
    intro text?
    rcases text? with _ | text
    · rfl
    · rfl
  cases entry with
  | event e spans =>
    rcases threshold with _ | severity
    · rfl
    · exact hErrors (LogLine.ofEvent? display.clock severity e spans)
  | closed span around =>
    rcases threshold with _ | severity
    · rfl
    · exact hErrors (LogLine.ofClosing? display.clock severity span around)
  | told message =>
    rcases hStream : message.stream with _ | _ <;> simp [entryText?, outputText?, hStream]
  | rejected rejection => cases rejection <;> rfl
  | completions shell => rfl
  | _ => rfl

theorem printed_output (display : Display) (journal : List Entry) :
    printed display .output journal = String.join (journal.filterMap (outputText? display)) := by
  -- by induction on the journal, whatever is shown of the events
  have hTexts : ∀ threshold, (transcript display threshold journal).filterMap
      (fun (s, text) => if s = .output then some text else none) =
        journal.filterMap (outputText? display) := by
    induction journal with
    | nil => exact fun threshold => rfl
    | cons entry rest ih =>
      intro threshold
      rw [transcript, List.filterMap_append, filterMap_entryText?, ih]
      rcases hText : outputText? display entry with _ | text
      · rw [List.filterMap_cons_none hText]
        rfl
      · rw [List.filterMap_cons_some hText]
        rfl
  unfold printed
  rw [hTexts]

/-! ## Reading a listing -/

namespace Listed

/-- The lines of a text in which each line has its end. -/
def lines (text : String) : List (List Char) := (text.toList.splitOn '\n').dropLast

/-- The name and the description in a line of a listing.  The name begins behind two blanks and goes
on as long as a name can; the description begins behind the column of the names and one blank
more. -/
def readLine (line : List Char) : String × String :=
  let rest := line.drop 2
  let name := rest.takeWhile isNameSign
  (String.ofList name, String.ofList (rest.drop (max name.length Message.nameWidth + 1)))

/-- The sources in a listing, whose first line is its header. -/
def readBack (text : String) : List (String × String) := ((lines text).drop 1).map readLine

end Listed

open Listed

/-- Every character of the name of a source is one that goes on with a name. -/
theorem all_isNameSign {name : String} (hName : isSourceName name = true) :
    ∀ c ∈ name.toList, isNameSign c = true := by
  unfold isSourceName at hName
  split at hName
  · exact nomatch hName
  · next first rest hChars =>
    obtain ⟨hSmall, hRest⟩ := Bool.and_eq_true_iff.mp hName
    rw [hChars]
    intro c hc
    rcases List.mem_cons.mp hc with rfl | hc
    · simp [isNameSign, hSmall]
    · exact List.all_eq_true.mp hRest c hc

/-- The name ends where something else begins, and what is behind the column is the rest. -/
theorem readLine_name {name : List Char} (hName : ∀ c ∈ name, isNameSign c = true)
    {tail : List Char} (hTail : ∀ c ∈ tail.head?, isNameSign c = false) :
    readLine (' ' :: ' ' :: (name ++ tail)) =
      (String.ofList name, String.ofList
        ((name ++ tail).drop (max name.length Message.nameWidth + 1))) := by
  have hTake : (name ++ tail).takeWhile isNameSign = name := by
    rw [List.takeWhile_append_of_pos hName]
    rcases tail with _ | ⟨c, rest⟩
    · rw [List.takeWhile_nil, List.append_nil]
    · rw [List.takeWhile_cons_of_neg (by simpa using hTail c rfl), List.append_nil]
  show (String.ofList ((name ++ tail).takeWhile isNameSign), String.ofList ((name ++ tail).drop
    (max ((name ++ tail).takeWhile isNameSign).length Message.nameWidth + 1))) = _
  rw [hTake]

/-- What stands behind the name of a source in its line: nothing, or the rest of the column, a blank
and the description. -/
def behind (name about : String) : List Char :=
  if about = "" then []
  else List.replicate (Message.nameWidth - name.length) ' ' ++ ' ' :: about.toList

theorem toList_entry (name about : String) :
    ((Message.entry name about).text false).toList =
      ' ' :: ' ' :: (name.toList ++ behind name about) := by
  show (if about = "" then "  " ++ Style.cyan.paint false name
    else "  " ++ Style.cyan.paint false (Message.padded Message.nameWidth name) ++ " " ++
      about).toList = _
  unfold behind
  split
  · rw [Style.paint_false, String.toList_append, List.append_nil]
    rfl
  · rw [Style.paint_false]
    simp only [Message.padded, String.toList_append, String.toList_ofList, List.append_assoc]
    rfl

/-- The line of a source gives back its name and its description. -/
theorem readLine_entry {name about : String} (hName : isSourceName name = true) :
    readLine ((Message.entry name about).text false).toList = (name, about) := by
  have hLength : name.toList.length = name.length := String.length_toList
  have hWidth : Message.nameWidth = 16 := rfl
  -- whatever stands behind the name does not go on with it
  have hEnd : ∀ c ∈ (behind name about).head?, isNameSign c = false := by
    have hBlanks : ∀ n, (List.replicate n ' ' ++ ' ' :: about.toList).head? = some ' ' := by
      intro n
      cases n <;> rfl
    unfold behind
    split
    · simp
    · intro c hc
      rw [hBlanks] at hc
      obtain rfl : ' ' = c := Option.some.inj hc
      rfl
  have hRest : (name.toList ++ behind name about).drop
      (max name.toList.length Message.nameWidth + 1) = about.toList := by
    unfold behind
    split
    · next hAbout =>
      rw [hAbout, List.append_nil]
      exact List.drop_eq_nil_of_le (by omega)
    · -- the column of the name and the blank behind it are passed over
      have hSplit : ∀ blanks : List Char, name.toList ++ (blanks ++ ' ' :: about.toList) =
          (name.toList ++ blanks ++ [' ']) ++ about.toList := by
        intro blanks
        simp
      rw [hSplit]
      refine List.drop_left' ?_
      simp only [List.length_append, List.length_singleton, List.length_replicate]
      omega
  rw [toList_entry, readLine_name (all_isNameSign hName) hEnd, hRest, String.ofList_toList,
    String.ofList_toList]

/-- The line of a source is one line if its description is. -/
theorem not_mem_entry {name about : String} (hName : isSourceName name = true)
    (hAbout : '\n' ∉ about.toList) : '\n' ∉ ((Message.entry name about).text false).toList := by
  have hSigns : '\n' ∉ name.toList := fun hMem =>
    absurd (all_isNameSign hName _ hMem) (by decide)
  rw [toList_entry]
  unfold behind
  split
  · simpa using hSigns
  · simp [hSigns, hAbout]

/-- Lines that are printed one behind the other are told apart again. -/
theorem lines_join {texts : List String} (hLines : ∀ text ∈ texts, '\n' ∉ text.toList) :
    lines (String.join (texts.map (· ++ "\n"))) = texts.map String.toList := by
  -- behind the last end of a line stands nothing
  have hSplit : (String.join (texts.map (· ++ "\n"))).toList.splitOn '\n' =
      texts.map String.toList ++ [[]] := by
    induction texts with
    | nil => rfl
    | cons text rest ih =>
      have hText : (String.join ((text :: rest).map (· ++ "\n"))).toList =
          text.toList ++ '\n' :: (String.join (rest.map (· ++ "\n"))).toList := by
        rw [List.map_cons, String.join_cons, String.toList_append, String.toList_append,
          List.append_assoc]
        rfl
      rw [hText, List.splitOn_append_cons_self,
        List.splitOn_eq_singleton (hLines text List.mem_cons_self),
        ih fun other hOther => hLines other (List.mem_cons_of_mem _ hOther)]
      rfl
  rw [lines, hSplit, List.dropLast_concat]

/-- The text that a message prints on the output, where there is no colour. -/
def plainText? (message : Message) : Option String :=
  if message.stream = .output then some (message.line false) else none

/-- What is printed on the output of the messages that list sources gives back the sources. -/
theorem read_listing {sources : List (String × String)}
    (hNames : ∀ source ∈ sources, isSourceName source.1 = true)
    (hAbouts : ∀ source ∈ sources, '\n' ∉ source.2.toList) :
    readBack (String.join ((Services.listing sources).filterMap plainText?)) = sources := by
  rcases sources with _ | ⟨first, rest⟩
  · rfl
  -- a header, and a line for each source
  let texts := (first :: rest).map fun source => (Message.entry source.1 source.2).text false
  have hTexts : (Services.listing (first :: rest)).filterMap plainText? =
      ("Data sources:" :: texts).map (· ++ "\n") := by
    have hEntries : ((first :: rest).map fun source => Message.entry source.1 source.2).filterMap
        plainText? = texts.map (· ++ "\n") := by
      rw [List.filterMap_map, List.map_map]
      exact congrFun List.filterMap_eq_map (first :: rest)
    show _ :: ((first :: rest).map fun source => Message.entry source.1 source.2).filterMap
      plainText? = _
    rw [hEntries]
    rfl
  have hLines : ∀ text ∈ "Data sources:" :: texts, '\n' ∉ text.toList := by
    intro text hText
    rcases List.mem_cons.mp hText with rfl | hText
    · decide
    · obtain ⟨source, hSource, rfl⟩ := List.mem_map.mp hText
      exact not_mem_entry (hNames source hSource) (hAbouts source hSource)
  unfold readBack
  rw [hTexts, lines_join hLines, List.map_cons, List.drop_one, List.tail_cons, List.map_map,
    List.map_map]
  refine (List.map_congr_left fun source hSource => ?_).trans (List.map_id _)
  exact readLine_entry (hNames source hSource)

end Terminal

open Terminal (outputText? plainText?)

/-! ## What a listing leaves in the journal -/

namespace Services

variable {services : Services} {s : Session} {call : SetUp}

/-- A listing, once the session of its log has begun: the group is entered, and the sources are
told. -/
theorem result_performData_list
    (hSetUp : services.log.setUp (services.site s).console dataGroup s.files = call)
    (hOk : call.result = .ok ()) :
    let around := span "cmd_data" DataRequest.list.words
    let inside := { s with spans := s.spans ++ [around] }
    ∃ t, (services.performData .list).result s = (.ok (), t) ∧
      t.journal = s.journal ++ (services.entering inside call.reports ++
        (listing services.registry.describe).map .told ++ [.closed around s.spans]) := by
  intro around inside
  have hEnter : services.enterData.result inside = _ := result_enterData (s := inside) hSetUp hOk
  have hList : services.performData .list =
      Action.within around (services.enterData >>= fun group =>
        (listing group.sources).forM Action.tell) := rfl
  rw [hList, Action.result_within, Action.result_bind_ok (congrArg Prod.fst hEnter), hEnter]
  dsimp only
  rw [Action.result_forM_tell]
  refine ⟨_, rfl, ?_⟩
  simp [Session.add, Session.after, Group.sources, inside]

/-- Nothing of entering the group is printed on the output. -/
theorem outputText?_entering (display : Terminal.Display) (services : Services) (s : Session)
    (reports : List Report) :
    (services.entering s reports).filterMap (outputText? display) = [] := by
  rw [List.filterMap_eq_nil_iff]
  unfold entering
  intro entry hEntry
  simp only [List.mem_append, List.mem_cons, List.not_mem_nil, or_false, List.mem_map] at hEntry
  rcases hEntry with (rfl | ⟨report, -, rfl⟩) | rfl
  · rfl
  · cases report <;> rfl
  · rfl

/-- Where a listing goes well, the messages that list the sources are all that it prints on the
output. -/
theorem outputText?_performData_list (display : Terminal.Display) {t : Session}
    (hOk : (services.performData .list).result s = (.ok (), t)) :
    t.journal.filterMap (outputText? display) =
      s.journal.filterMap (outputText? display) ++
        ((listing services.registry.describe).map .told).filterMap (outputText? display) := by
  have hCases := services.performData_cases .list s
  rw [hOk] at hCases
  dsimp only at hCases
  rcases hEnd : (services.log.setUp (services.site s).console dataGroup s.files).result
    with cause | ⟨⟩ <;> rw [hEnd] at hCases
  · -- a log that refuses would have ended the run otherwise
    exact nomatch hCases.1
  · obtain ⟨u, hResult, hJournal⟩ := result_performData_list rfl hEnd
    rw [hOk] at hResult
    obtain rfl := (Prod.mk.inj hResult).2
    have hClosed : ∀ around spans, [Entry.closed around spans].filterMap (outputText? display) =
        [] := fun _ _ => rfl
    rw [hJournal, List.filterMap_append, List.filterMap_append, List.filterMap_append,
      outputText?_entering, hClosed, List.nil_append, List.append_nil]

end Services

namespace Program

open CommandLine (Invocation)
open Terminal (Display)

/-- Nothing of the announcement is printed on the output. -/
theorem outputText?_announcement (display : Display) (verbose : Nat) (level : LogLevel)
    (spans : List Span) :
    (announcement verbose level spans).filterMap (outputText? display) = [] := by
  have hEvents : ((modeEvent? (threshold verbose level)).toList.map
      (Entry.event · spans)).filterMap (outputText? display) = [] := by
    rw [List.filterMap_eq_nil_iff]
    intro entry hEntry
    obtain ⟨e, -, rfl⟩ := List.mem_map.mp hEntry
    rfl
  unfold announcement
  rw [List.filterMap_append, List.filterMap_cons_none rfl, hEvents, List.append_nil]
  split
  · rfl
  · rfl

/-! ## Whole runs -/

/-- A run that lists the sources and goes well, on a terminal without colour. -/
structure Listing where
  program : Program
  args : List Bytes
  files : FileTree
  invocation : Invocation
  display : Display
  parsed : Invocation.parse program.registry args = .ok invocation
  listed : invocation.request = some (.data .list)
  ended : (program.run args files).status = .ok
  uncoloured : display.colour = false

namespace Listing

/-- The sources that the program comes with, and what they are for. -/
def sources (l : Listing) : List (String × String) := l.program.registry.describe

/-- What the run prints on the output. -/
def output (l : Listing) : String :=
  Terminal.printed l.display .output (l.program.run l.args l.files).session.journal

/-- Apart from the messages that list the sources nothing is printed. -/
theorem output_eq (l : Listing) :
    l.output = String.join ((Services.listing l.sources).filterMap plainText?) := by
  obtain ⟨settings, -, hPerform⟩ := perform_of_status_ok l.parsed l.ended
  rw [l.listed] at hPerform
  have hPrinted := Services.outputText?_performData_list l.display hPerform
  have hStart : ((Session.begin l.files).after l.files
      (announcement l.invocation.verbose settings.logLevel [])).journal =
        announcement l.invocation.verbose settings.logLevel [] := rfl
  have hTold : ((Services.listing l.sources).map Entry.told).filterMap (outputText? l.display) =
      (Services.listing l.sources).filterMap plainText? := by
    rw [List.filterMap_map]
    refine List.filterMap_congr fun message _ => ?_
    show (if message.stream = .output then some (message.line l.display.colour) else none) = _
    rw [l.uncoloured]
    rfl
  rw [hStart, outputText?_announcement, List.nil_append] at hPrinted
  rw [← hTold]
  exact (Terminal.printed_output l.display _).trans (congrArg String.join hPrinted)

/-- Whatever the registry is, its sources can be listed. -/
theorem status_list (registry : Registry) :
    (run ⟨registry, .recording, rootWith []⟩ (["kfc", "data", "list"].map Utf8.encode)
      .empty).status = .ok := by
  let p : Program := ⟨registry, .recording, rootWith []⟩
  let invocation : Invocation := ⟨none, none, 0, some (.data .list)⟩
  let services : Services := ⟨rootSettingsAt .warning, rootWith [], registry, .recording⟩
  have hParse : Invocation.parse registry (["kfc", "data", "list"].map Utf8.encode) =
      .ok invocation := rfl
  have hLoad : Settings.load (rootWith []) .empty = .ok (rootSettingsAt .warning) := by
    decide +kernel
  have hSettings : p.settings invocation (Session.begin .empty).files =
      .ok (rootSettingsAt .warning) := by
    show (Settings.load (rootWith []) .empty >>= fun loaded => _) = _
    rw [hLoad]
    rfl
  have hWork := result_work p invocation (.begin .empty)
  rw [hSettings] at hWork
  -- the log that only notes what it is asked for never refuses
  let s := (Session.begin .empty).after .empty (announcement 0 .warning [])
  have hSetUp : services.log.setUp (services.site s).console dataGroup s.files =
      ⟨.ok (), .empty, [.asked "system/service/console/live" dataGroup]⟩ := rfl
  obtain ⟨t, hList, -⟩ := Services.result_performData_list hSetUp rfl
  have hDone : (p.work invocation).result (.begin .empty) = (.ok (), t) := hWork.trans hList
  unfold run
  rw [hParse]
  show (conclude (p.work invocation) (.begin .empty)).status = .ok
  unfold conclude
  rw [hDone]

/-- The listing of a registry. -/
def ofRegistry (registry : Registry) : Listing where
  program := ⟨registry, .recording, rootWith []⟩
  args := ["kfc", "data", "list"].map Utf8.encode
  files := .empty
  invocation := ⟨none, none, 0, some (.data .list)⟩
  display := probeDisplay
  parsed := rfl
  listed := rfl
  ended := status_list registry
  uncoloured := rfl

end Listing

/-- A listing that goes well gives back the sources and what they are for, in their order.  So two
of them print the same exactly if the registries describe the same sources. -/
theorem listing_faithful (a b : Listing)
    (hA : ∀ source ∈ a.sources, '\n' ∉ source.2.toList)
    (hB : ∀ source ∈ b.sources, '\n' ∉ source.2.toList) :
    Terminal.Listed.readBack a.output = a.sources ∧
      (a.output = b.output ↔ a.sources = b.sources) := by
  have hBack : ∀ l : Listing, (∀ source ∈ l.sources, '\n' ∉ source.2.toList) →
      Terminal.Listed.readBack l.output = l.sources := by
    intro l hAbouts
    rw [l.output_eq]
    refine Terminal.read_listing (fun source hSource => ?_) hAbouts
    obtain ⟨entry, hEntry, rfl⟩ := List.mem_map.mp hSource
    exact l.program.registry.valid entry hEntry
  refine ⟨hBack a hA, fun hSame => ?_, fun hSame => ?_⟩
  · rw [← hBack a hA, hSame, hBack b hB]
  · rw [a.output_eq, b.output_eq, hSame]

/-- A description that begins with blanks, and a name longer than its column that has none. -/
theorem listing_faithful_sample :
    let described : Listing := .ofRegistry (.ofCalls [⟨"rest", .counting 0 "rest" "  poller" false⟩,
      ⟨"csv-of-a-long-name", .counting 1 "csv-of-a-long-name" "" false⟩])
    Terminal.Listed.readBack described.output =
        [("csv-of-a-long-name", ""), ("rest", "  poller")] ∧
      described.output ≠ (Listing.ofRegistry .builtin).output := by
  intro described
  have hSources : described.sources = [("csv-of-a-long-name", ""), ("rest", "  poller")] := by
    decide
  obtain ⟨hBack, hSame⟩ := listing_faithful described (.ofRegistry .builtin)
    (by rw [hSources]; decide) (by decide)
  refine ⟨hBack.trans hSources, fun hOutput => ?_⟩
  have hOther := hSame.mp hOutput
  rw [hSources] at hOther
  exact absurd hOther (by decide)

end Program

end MarketFeed
