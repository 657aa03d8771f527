import GroundedDialogue.Corpus
import GroundedDialogue.Proofs.Store.Runs
import GroundedDialogue.Proofs.Text.Lines

/-!
# What becomes of a corpus

Every line of a corpus has its fate: it is blank, it gets no embedding, or it becomes a document of its
own bytes. The fates are those of a store with room for all of them (`Corpus.fates`); a store with less
room takes them up to the first line that is not blank and finds it full (`Corpus.Refused`). Nothing is
lost in front of that line, and nothing is asked for from there on (`Corpus.load_lines`).
-/

namespace GroundedDialogue.Corpus

open Disk

/-- What becomes of a line that is dealt with. -/
inductive Fate where
  | blank
  | failed
  | stored (d : Document)
  deriving DecidableEq

def Fate.document? : Fate → Option Document
  | stored d => some d
  | _ => none

def documents (fates : List Fate) : List Document := fates.filterMap Fate.document?

theorem documents_cons (f : Fate) (fates : List Fate) :
    documents (f :: fates) = f.document?.toList ++ documents fates := by cases f <;> rfl

abbrev isBlank (line : Bytes) : Bool := (Text.decode line).isBlank

/-- The bytes of a line that its document is made from. -/
def ownBytes (line : Bytes) : Bytes := line.takeWhile (· ≠ 0)

/-- The bytes of a line that are stored. -/
def keptBytes (l : Layout) (line : Bytes) : Bytes :=
  if (ownBytes line).length ≤ l.maxText - 1 then ownBytes line
  else Text.dropSplit ((ownBytes line).take (l.maxText - 1))

/-- The text of a line that a provider is asked for. -/
def asked (line : Bytes) : Text := Text.decode (ownBytes line)

/-- What becomes of a line with this answer to it. -/
def fate (l : Layout) (line : Bytes) : Except Fault Embedding → Fate
  | .error _ => .failed
  | .ok v => if v.length = l.embedSize then .stored ⟨v, Text.decode (keptBytes l line)⟩ else .failed

variable {E : Type} [EmbeddingProvider E]

/-- What becomes of lines in a store with room for all of them. -/
def fates (l : Layout) (e : E) : List Bytes → List Fate
  | [] => []
  | line :: rest =>
    if isBlank line then .blank :: fates l e rest
    else fate l line (EmbeddingProvider.embed e (asked line)).1
      :: fates l (EmbeddingProvider.embed e (asked line)).2 rest

def providerAfter (e : E) : List Bytes → E
  | [] => e
  | line :: rest =>
    if isBlank line then providerAfter e rest
    else providerAfter (EmbeddingProvider.embed e (asked line)).2 rest

/-- The line at this position is not blank and finds the store full. -/
def Refused (s : Store) (fates : List Fate) (i : Nat) : Prop :=
  ∃ fate, fates[i]? = some fate ∧ fate ≠ .blank ∧ s.capacity ≤ s.length + (documents (fates.take i)).length

def Report.note (r : Report) : Fate → Report
  | .blank => { r with skippedBlank := r.skippedBlank + 1 }
  | .failed => { r with failed := r.failed + 1 }
  | .stored _ => { r with added := r.added + 1 }

def Fate.store (s : Store) (f : Fate) : Store := { s with documents := s.documents ++ f.document?.toList }

/-! ## One line -/

variable {line : Bytes} {s : Store}

theorem untilNull_decode (line : Bytes) : Store.untilNull (Text.decode line) = asked line := by
  have hnull : ∀ bytes : Bytes, 0 ∈ Text.decode bytes ↔ 0 ∈ bytes := fun bytes =>
    Text.ascii_mem_decode (b := 0) (by decide)
  rw [Store.untilNull, asked, ownBytes]
  by_cases hmem : 0 ∈ line
  · obtain ⟨before, after, rfl, hbefore⟩ := List.eq_append_cons_of_mem hmem
    have hdecode : Text.decode (before ++ 0 :: after) = Text.decode before ++ 0 :: Text.decode after :=
      Text.decode_append_ascii (by decide) before after
    rw [hdecode, Bytes.takeWhile_ne_append_cons, Bytes.takeWhile_ne_append_cons,
      Bytes.takeWhile_ne_eq_self_iff.mpr hbefore,
      Bytes.takeWhile_ne_eq_self_iff.mpr (mt (hnull before).mp hbefore)]
  · rw [Bytes.takeWhile_ne_eq_self_iff.mpr hmem, Bytes.takeWhile_ne_eq_self_iff.mpr (mt (hnull line).mp hmem)]

theorem truncate_asked (l : Layout) (line : Bytes) :
    Text.truncate (Store.textLimit l) (asked line) = .ok (Text.decode (keptBytes l line)) := by
  have hpos := l.maxText_pos
  have hlimit : Store.textLimit l = (l.maxText : Int) - 1 := rfl
  have hfits : ((ownBytes line).length : Int) ≤ (l.maxText : Int) - 1
      ↔ (ownBytes line).length ≤ l.maxText - 1 := by omega
  have hnat : ((l.maxText : Int) - 1).toNat = l.maxText - 1 := by omega
  rw [asked, Text.truncate_decode (by omega), keptBytes, hlimit, hnat]
  simp only [hfits]

theorem fate_ne_blank (l : Layout) (line : Bytes) (answer : Except Fault Embedding) :
    fate l line answer ≠ .blank := by
  rw [fate.eq_def]
  split
  · exact nofun
  · split_ifs <;> exact nofun

variable (path : Text) (number : Nat) (report : Report) (log : Log.Journal) (e : E)

theorem readLine_of_isBlank (h : isBlank line = true) (p : Progress E) :
    readLine path p number (Text.decode line)
      = (.goOn, { p with report := p.report.note .blank }) := if_pos h

theorem readLine_of_full (h : ¬isBlank line = true) (hfull : s.capacity ≤ s.length) :
    ∃ log', readLine path ⟨report, s, some e, log⟩ number (Text.decode line)
      = (.cutShort, ⟨{ report with cutShort := true }, s, some e, log'⟩) := by
  have hadd : (s.add (some e) (Text.decode line)).result = .error (.full s.capacity) ∧
      (s.add (some e) (Text.decode line)).store = s ∧
      (s.add (some e) (Text.decode line)).embedder = some e := by
    rw [Store.add, if_pos (by simpa [Store.isFull] using hfull)]
    exact ⟨rfl, rfl, rfl⟩
  obtain ⟨hresult, hstore, hembedder⟩ := hadd
  rw [readLine, if_neg h]
  dsimp only
  rw [hresult, hstore, hembedder]
  exact ⟨_, rfl⟩

theorem add_decode (hroom : s.length < s.capacity) :
    let answer := EmbeddingProvider.embed e (asked line)
    let f := fate s.layout line answer.1
    (s.add (some e) (Text.decode line)).store = f.store s ∧
      (s.add (some e) (Text.decode line)).embedder = some answer.2 ∧
      ((f = .failed ∧ ∃ f, (s.add (some e) (Text.decode line)).result = .error (.embed (.fault f))) ∨
        ∃ d n, f = .stored d ∧ (s.add (some e) (Text.decode line)).result = .ok n) := by
  dsimp only
  rw [Store.add, if_neg (by simpa [Store.isFull] using hroom), untilNull_decode, truncate_asked]
  dsimp only
  rw [Store.embed]
  rcases EmbeddingProvider.embed e (asked line) with ⟨f | v, e'⟩
  · refine ⟨?_, rfl, Or.inl ⟨rfl, _, rfl⟩⟩
    simp [fate, Fate.store, Fate.document?]
  · dsimp only [fate]
    split_ifs
    · exact ⟨rfl, rfl, Or.inr ⟨_, _, rfl, rfl⟩⟩
    · refine ⟨?_, rfl, Or.inl ⟨rfl, _, rfl⟩⟩
      simp [Fate.store, Fate.document?]

theorem readLine_of_room (h : ¬isBlank line = true) (hroom : s.length < s.capacity) :
    ∃ log', readLine path ⟨report, s, some e, log⟩ number (Text.decode line)
      = (.goOn, ⟨report.note (fate s.layout line (EmbeddingProvider.embed e (asked line)).1),
          (fate s.layout line (EmbeddingProvider.embed e (asked line)).1).store s,
          some (EmbeddingProvider.embed e (asked line)).2, log'⟩) := by
  obtain ⟨hstore, hembedder, hresult⟩ := add_decode e hroom
  rw [readLine, if_neg h]
  dsimp only
  rw [hstore, hembedder]
  rcases hresult with ⟨hfate, f, hresult⟩ | ⟨d, n, hfate, hresult⟩
  · rw [hresult, hfate]
    exact ⟨_, rfl⟩
  · rw [hresult, hfate]
    exact ⟨_, rfl⟩

/-- A line that is dealt with has the first of the fates, and leaves behind what the rest of them start
from. -/
theorem readLine_decode (h : isBlank line = true ∨ s.length < s.capacity) :
    ∃ f e' log', readLine path ⟨report, s, some e, log⟩ number (Text.decode line)
        = (.goOn, ⟨report.note f, f.store s, some e', log'⟩) ∧
      (f = .blank ∨ s.length < s.capacity) ∧
      ∀ rest, fates s.layout e (line :: rest) = f :: fates s.layout e' rest ∧
        providerAfter e (line :: rest) = providerAfter e' rest := by
  by_cases hblank : isBlank line = true
  · refine ⟨.blank, e, log, ?_, Or.inl rfl, fun rest => ⟨if_pos hblank, if_pos hblank⟩⟩
    rw [readLine_of_isBlank path number hblank]
    simp [Fate.store, Fate.document?]
  · have hroom := h.resolve_left hblank
    obtain ⟨log', hread⟩ := readLine_of_room path number report log e hblank hroom
    refine ⟨_, _, log', hread, Or.inr hroom, fun rest => ?_⟩
    exact ⟨if_neg hblank, if_neg hblank⟩

/-! ## All lines -/

/-- The lines up to the first refused one are dealt with. -/
structure Stops (s : Store) (fates : List Fate) (n : Nat) : Prop where
  le : n ≤ fates.length
  earlier : ∀ i < n, ¬Refused s fates i
  refused : n < fates.length → Refused s fates n

theorem refused_cons_succ (s : Store) (f : Fate) (fates : List Fate) (i : Nat) :
    Refused s (f :: fates) (i + 1) ↔ Refused (f.store s) fates i := by
  have hroom : s.length + (documents (f :: fates.take i)).length
      = (f.store s).length + (documents (fates.take i)).length := by
    rw [documents_cons, Fate.store, Store.length, Store.length, List.length_append, List.length_append]
    exact (Nat.add_assoc _ _ _).symm
  rw [Refused, Refused, List.getElem?_cons_succ, List.take_succ_cons, hroom]
  rfl

theorem Stops.cons {f : Fate} {fates : List Fate} {n : Nat} (hstops : Stops (f.store s) fates n)
    (hf : f = .blank ∨ s.length < s.capacity) : Stops s (f :: fates) (n + 1) where
  le := Nat.succ_le_succ hstops.le
  earlier i hi := by
    cases i with
    | zero =>
      rintro ⟨fate, hfate, hne, hfull⟩
      cases hfate
      have hroom := hf.resolve_left hne
      simp only [List.take_zero, documents, List.filterMap_nil, List.length_nil] at hfull
      omega
    | succ i =>
      rw [refused_cons_succ]
      exact hstops.earlier i (Nat.lt_of_succ_lt_succ hi)
  refused hn := by
    rw [refused_cons_succ]
    exact hstops.refused (Nat.lt_of_succ_lt_succ hn)

theorem Stops.lt_length_iff {fates : List Fate} {n : Nat} (h : Stops s fates n) :
    n < fates.length ↔ ∃ i, Refused s fates i := by
  constructor
  · exact fun hlt => ⟨n, h.refused hlt⟩
  · rintro ⟨i, fate, hfate, hrefused⟩
    have hlt := (List.getElem?_eq_some_iff.mp hfate).1
    by_contra hge
    exact h.earlier i (by omega) ⟨fate, hfate, hrefused⟩

theorem Stops.not_lt {fates : List Fate} {n n' : Nat} (h : Stops s fates n) (h' : Stops s fates n') :
    ¬n < n' := fun hlt => h'.earlier n hlt (h.refused (Nat.lt_of_lt_of_le hlt h'.le))

theorem Stops.unique {fates : List Fate} {n n' : Nat} (h : Stops s fates n) (h' : Stops s fates n') :
    n = n' := Nat.le_antisymm (Nat.not_lt.mp (h'.not_lt h)) (Nat.not_lt.mp (h.not_lt h'))

theorem length_fates (l : Layout) (lines : List Bytes) : (fates l e lines).length = lines.length := by
  induction lines generalizing e with
  | nil => rfl
  | cons line lines ih =>
    rw [fates]
    split_ifs <;> rw [List.length_cons, ih, List.length_cons]

theorem foldl_note (fates : List Fate) :
    fates.foldl Report.note report
      = ⟨report.added + (documents fates).length, report.skippedBlank + fates.count .blank,
          report.failed + fates.count .failed, report.cutShort⟩ := by
  induction fates generalizing report with
  | nil => rfl
  | cons f fates ih =>
    rw [List.foldl_cons, ih, documents_cons, List.length_append]
    cases f <;> simp [Report.note, Fate.document?] <;> omega

theorem readLines_decode (s : Store) (lines : List Bytes) (hreport : report.cutShort = false) :
    ∃ n, Stops s (fates s.layout e lines) n ∧
      ∃ log', readLines path ⟨report, s, some e, log⟩ number (lines.map Text.decode)
        = (none, ⟨{ ((fates s.layout e lines).take n).foldl Report.note report with
              cutShort := decide (n < lines.length) },
            { s with documents := s.documents ++ documents ((fates s.layout e lines).take n) },
            some (providerAfter e (lines.take n)), log'⟩) := by
  induction lines generalizing report s e log number with
  | nil =>
    refine ⟨0, ⟨Nat.le_refl _, nofun, nofun⟩, log, ?_⟩
    have hself : { report with cutShort := false } = report := by rw [← hreport]
    simp [readLines, documents, providerAfter, hself]
  | cons line lines ih =>
    rw [List.map_cons, readLines]
    by_cases hdealt : isBlank line = true ∨ s.length < s.capacity
    · obtain ⟨f, e', log', hread, hf, hlater⟩ := readLine_decode path number report log e hdealt
      obtain ⟨hfates, -⟩ := hlater lines
      have hnote : (report.note f).cutShort = false := by cases f <;> exact hreport
      obtain ⟨n, hstops, log'', hrest⟩ := ih (number + 1) (report.note f) log' e' (f.store s) hnote
      rw [hread, hfates]
      refine ⟨n + 1, hstops.cons hf, log'', ?_⟩
      dsimp only
      rw [hrest, List.take_succ_cons, List.take_succ_cons, (hlater _).2, documents_cons, List.foldl_cons]
      simp [Fate.store]
    · rw [not_or, Nat.not_lt] at hdealt
      obtain ⟨hblank, hfull⟩ := hdealt
      obtain ⟨log', hread⟩ := readLine_of_full path number report log e hblank hfull
      rw [hread]
      refine ⟨0, ⟨Nat.zero_le _, nofun, fun _ => ?_⟩, log', ?_⟩
      · refine ⟨_, by rw [fates, if_neg hblank]; rfl, fate_ne_blank _ _ _, ?_⟩
        exact hfull
      · simp [documents, providerAfter]

/-! ## What a document is made of -/

theorem getElem?_fates (l : Layout) (lines : List Bytes) (i : Nat) :
    (fates l e lines)[i]? = lines[i]?.map fun line =>
      if isBlank line then .blank
      else fate l line (EmbeddingProvider.embed (providerAfter e (lines.take i)) (asked line)).1 := by
  induction lines generalizing e i with
  | nil => rfl
  | cons line lines ih =>
    rw [fates]
    cases i with
    | zero =>
      split_ifs with hblank <;> simp [hblank, providerAfter]
    | succ i =>
      split_ifs with hblank <;>
        simp only [List.getElem?_cons_succ, ih, List.take_succ_cons, providerAfter, hblank, if_true, if_false,
          Bool.false_eq_true]

theorem exists_line_of_stored {l : Layout} {lines : List Bytes} {i : Nat} {d : Document}
    (h : (fates l e lines)[i]? = some (.stored d)) :
    ∃ line, lines[i]? = some line ∧ ¬isBlank line = true ∧ d.embedding.length = l.embedSize ∧
      d.text.encode = keptBytes l line := by
  rw [getElem?_fates, Option.map_eq_some_iff] at h
  obtain ⟨line, hline, hfate⟩ := h
  split_ifs at hfate with hblank
  rw [fate.eq_def] at hfate
  split at hfate
  · cases hfate
  · split_ifs at hfate with hlength
    cases hfate
    exact ⟨line, hline, hblank, hlength, Text.encode_decode _⟩

/-! ## What the provider is asked for -/

theorem fates_recorded (l : Layout) (texts : List Text) (lines : List Bytes) :
    fates l (RecordedEmbedder.mk e texts) lines = fates l e lines := by
  induction lines generalizing e texts with
  | nil => rfl
  | cons line lines ih =>
    rw [fates, fates]
    split_ifs
    · rw [ih]
    · exact congrArg _ (ih _ _)

theorem texts_providerAfter (texts : List Text) (lines : List Bytes) :
    (providerAfter (RecordedEmbedder.mk e texts) lines).texts
      = texts ++ (lines.filter (!isBlank ·)).map asked := by
  induction lines generalizing e texts with
  | nil => exact (List.append_nil texts).symm
  | cons line lines ih =>
    rw [providerAfter]
    split_ifs with hblank
    · rw [ih, List.filter_cons_of_neg (by simpa using hblank)]
    · rw [List.filter_cons_of_pos (by simpa using hblank), List.map_cons]
      exact (ih _ _).trans (List.append_assoc texts [asked line] _)

/-- **Every line of a corpus is dealt with once and in its order**, up to the first line that is not blank
and finds the store full. -/
theorem load_lines {t : Tree} {content : Bytes} (hread : t.read path = .ok content) (s : Store) :
    ∃ lines, Bytes.Lines content lines ∧ (∀ lines', Bytes.Lines content lines' → lines' = lines) ∧
      ∃ n, Stops s (fates s.layout e lines) n ∧
        let dealt := (fates s.layout e lines).take n
        let ingestion := load t path s (some e)
        let recorded := load t path s (some (RecordedEmbedder.mk e []))
        ingestion.result = .ok ⟨(documents dealt).length, dealt.count .blank, dealt.count .failed,
            decide (n < lines.length)⟩ ∧
          (n < lines.length ↔ ∃ i, Refused s (fates s.layout e lines) i) ∧
          ingestion.store = { s with documents := s.documents ++ documents dealt } ∧
          (∀ (i : Nat) (d : Document), dealt[i]? = some (.stored d) →
            ∃ line, lines[i]? = some line ∧ ¬isBlank line = true ∧
              d.embedding.length = s.layout.embedSize ∧ d.text.encode = keptBytes s.layout line) ∧
          recorded.result = ingestion.result ∧ recorded.store = ingestion.store ∧
          recorded.embedder.map RecordedEmbedder.texts
            = some (((lines.take n).filter (!isBlank ·)).map asked) := by
  obtain ⟨lines, hlines⟩ := Bytes.exists_lines content
  refine ⟨lines, hlines, fun lines' h' => h'.unique hlines, ?_⟩
  obtain ⟨n, hstops, log, hrun⟩ := readLines_decode path 1 Report.empty [] e s lines rfl
  obtain ⟨n', hstops', log', hrecorded⟩ := readLines_decode path 1 Report.empty []
    (RecordedEmbedder.mk e []) s lines rfl
  rw [fates_recorded] at hstops' hrecorded
  obtain rfl := hstops.unique hstops'
  refine ⟨n, hstops, ?_⟩
  dsimp only
  rw [load, load, hread]
  dsimp only
  rw [hlines.lines_decode, hrun, hrecorded]
  dsimp only
  rw [foldl_note]
  refine ⟨?_, ?_, rfl, ?_, rfl, rfl, ?_⟩
  · simp [Report.empty]
  · rw [← length_fates e s.layout lines]
    exact hstops.lt_length_iff
  · intro i d hd
    rw [List.getElem?_take] at hd
    split_ifs at hd
    exact exists_line_of_stored e hd
  · rw [Option.map_some, texts_providerAfter, List.nil_append]

/-- Five lines of which the second is blank. -/
def fiveLines : Bytes := Text.encode "ruins\r\n \nwell\rold well\nmarsh\n"

def corpusTree : Tree :=
  ⟨[(workingDirectory ++ [("corpus" : Text)], .file fiveLines), (workingDirectory, .directory)]⟩

/-- A store with room for two documents. -/
def roomForTwo : Store := ⟨2, ⟨1, 2, Nat.one_pos, Nat.two_pos⟩, []⟩

/-- A provider whose second vector has the wrong dimension. -/
def uneven : Embedder := .scripted [.ok [.ofInt 1], .ok [], .ok [.ofInt 2]]

theorem load_fiveLines :
    ∃ lines n, Bytes.Lines fiveLines lines ∧ Stops roomForTwo (fates roomForTwo.layout uneven lines) n ∧
      n < lines.length ∧ (load corpusTree "corpus" roomForTwo (some uneven)).result = .ok ⟨2, 1, 1, true⟩ := by
  have hread : corpusTree.read "corpus" = .ok fiveLines := rfl
  obtain ⟨lines, hlines, -, n, hstops, hresult, -⟩ := load_lines "corpus" uneven hread roomForTwo
  have hrun : (load corpusTree "corpus" roomForTwo (some uneven)).result = .ok ⟨2, 1, 1, true⟩ := by
    decide +kernel
  rw [hrun] at hresult
  have hcut := congrArg Report.cutShort (Except.ok.inj hresult)
  exact ⟨lines, n, hlines, hstops, of_decide_eq_true hcut.symm, hrun⟩

end GroundedDialogue.Corpus
