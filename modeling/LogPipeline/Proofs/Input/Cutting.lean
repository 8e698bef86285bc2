import LogPipeline.Input.Lines
import LogPipeline.Proofs.Text.Decoding

/-!
# Cutting and decoding

Lines are cut from bytes, and decoded then. The same lines come out when all bytes are decoded and the text is cut:
a line feed is one character whatever is broken around it, and no other bytes make one. So lines that were written, each
with a line feed or a carriage return and a line feed behind it, are read as they were.
-/

namespace LogPipeline.Lines

open Text (decodeLossy decodeLossy_append_cons mem_of_mem_decodeLossy getLast?_of_decodeLossy)

variable {α : Type} {mark : α} {text line tail : List α} {lines : List (List α)} {bytes : List UInt8}

/-! ## Cuts -/

/-- A text is cut behind every mark: into lines, here without the mark that each of them has behind it, and what follows
the last mark. -/
structure Cuts (mark : α) (text : List α) (lines : List (List α)) (tail : List α) : Prop where
  joined : text = lines.flatMap (· ++ [mark]) ++ tail
  line : ∀ line ∈ lines, mark ∉ line
  tail : mark ∉ tail

theorem Cuts.cons (hl : mark ∉ line) (h : Cuts mark text lines tail) :
    Cuts mark (line ++ mark :: text) (line :: lines) tail where
  joined := by simp [h.joined]
  line := List.forall_mem_cons.mpr ⟨hl, h.line⟩
  tail := h.tail

/-- Every text has a cut. -/
theorem exists_cuts [DecidableEq α] (mark : α) (text : List α) : ∃ lines tail, Cuts mark text lines tail := by
  induction text with
  | nil => exact ⟨[], [], rfl, List.forall_mem_nil _, List.not_mem_nil⟩
  | cons c rest ih =>
    obtain ⟨lines, tail, rfl, hlines, htail⟩ := ih
    by_cases hc : c = mark
    · subst hc
      exact ⟨[] :: lines, tail, by simp, by simpa using hlines, htail⟩
    -- any other element belongs to the first line, or to the tail if there is no line
    · have hne : mark ≠ c := Ne.symm hc
      cases lines with
      | nil => exact ⟨[], c :: tail, rfl, List.forall_mem_nil _, by simp [hne, htail]⟩
      | cons line lines =>
        refine ⟨(c :: line) :: lines, tail, by simp, ?_, htail⟩
        simpa [hne] using hlines

/-! ## Bytes -/

theorem split_append_cons {line : List UInt8} (h : lineFeed ∉ line) (rest : List UInt8) :
    split (line ++ lineFeed :: rest) = (line ++ [lineFeed]) :: split rest := by
  induction line with
  | nil => simp [split]
  | cons byte line ih =>
    have hbyte : byte ≠ lineFeed := fun heq => h (heq ▸ List.mem_cons_self)
    have hline : lineFeed ∉ line := fun hm => h (List.mem_cons_of_mem _ hm)
    simp [split, hbyte, ih hline]

theorem split_of_notMem {tail : List UInt8} (h : lineFeed ∉ tail) : split tail = if tail = [] then [] else [tail] := by
  induction tail with
  | nil => rfl
  | cons byte rest ih =>
    have hbyte : byte ≠ lineFeed := fun heq => h (heq ▸ List.mem_cons_self)
    have hrest : lineFeed ∉ rest := fun hm => h (List.mem_cons_of_mem _ hm)
    rw [split, if_neg hbyte, ih hrest]
    cases rest <;> rfl

theorem split_of_cuts {lines : List (List UInt8)} {tail : List UInt8} (h : Cuts lineFeed bytes lines tail) :
    split bytes = lines.map (· ++ [lineFeed]) ++ if tail = [] then [] else [tail] := by
  obtain ⟨rfl, hlines, htail⟩ := h
  induction lines with
  | nil => exact split_of_notMem htail
  | cons line lines ih =>
    obtain ⟨hline, hlines⟩ := List.forall_mem_cons.mp hlines
    simp [split_append_cons hline, ih hlines]

/-! ## Texts -/

/-- A line without its carriage return. Of several it loses the last. -/
def withoutReturn (line : List Char) : List Char := if line.getLast? = some '\r' then line.dropLast else line

theorem isTerminated_append (line : List UInt8) : isTerminated (line ++ [lineFeed]) = true := by
  simp [isTerminated]

theorem isTerminated_of_notMem {tail : List UInt8} (h : lineFeed ∉ tail) : isTerminated tail = false := by
  rw [isTerminated, beq_eq_false_iff_ne]
  exact fun hlast => h (List.mem_of_getLast? hlast)

/-- A line loses the same carriage return before it is decoded as behind that. -/
theorem text_append (line : List UInt8) :
    Lines.text (line ++ [lineFeed]) = String.ofList (withoutReturn (decodeLossy line)) := by
  have hbody : chomp (line ++ [lineFeed]) = if line.getLast? == some carriageReturn then line.dropLast else line := by
    simp [chomp, isTerminated_append]
  unfold Lines.text withoutReturn
  rw [hbody]
  by_cases hreturn : line.getLast? = some carriageReturn
  · obtain ⟨front, rfl⟩ := List.getLast?_eq_some_iff.mp hreturn
    have hdecoded : decodeLossy (front ++ [carriageReturn]) = decodeLossy front ++ ['\r'] := by
      rw [decodeLossy_append_cons (by decide), Text.decodeLossy_nil]
      rfl
    simp [hdecoded]
  · have hdecoded : (decodeLossy line).getLast? ≠ some '\r' := by
      intro hlast
      obtain ⟨byte, hbyte, hchar⟩ := getLast?_of_decodeLossy (by decide) hlast
      obtain rfl : byte = carriageReturn := UInt8.toNat_inj.mp hchar
      exact hreturn hbyte
    simp [hreturn, hdecoded]

theorem text_of_notMem {tail : List UInt8} (h : lineFeed ∉ tail) :
    Lines.text tail = String.ofList (decodeLossy tail) := by
  simp [Lines.text, chomp, isTerminated_of_notMem h]

/-- A cut of bytes is a cut of what they are decoded to. -/
theorem Cuts.decodeLossy {lines : List (List UInt8)} {tail : List UInt8} (h : Cuts lineFeed bytes lines tail) :
    Cuts '\n' (Text.decodeLossy bytes) (lines.map Text.decodeLossy) (Text.decodeLossy tail) := by
  obtain ⟨rfl, hlines, htail⟩ := h
  -- no broken sequence makes a line feed
  have hfree {line : List UInt8} (hline : lineFeed ∉ line) : '\n' ∉ Text.decodeLossy line := by
    intro hm
    obtain ⟨byte, hbyte, hchar⟩ := mem_of_mem_decodeLossy (by decide) hm
    obtain rfl : byte = lineFeed := UInt8.toNat_inj.mp hchar
    exact hline hbyte
  induction lines with
  | nil => exact ⟨rfl, List.forall_mem_nil _, hfree htail⟩
  | cons line lines ih =>
    obtain ⟨hline, hlines⟩ := List.forall_mem_cons.mp hlines
    have hdecoded : Text.decodeLossy ((line :: lines).flatMap (· ++ [lineFeed]) ++ tail) =
        Text.decodeLossy line ++ '\n' :: Text.decodeLossy (lines.flatMap (· ++ [lineFeed]) ++ tail) := by
      rw [List.flatMap_cons, List.append_assoc, List.append_assoc, List.singleton_append,
        decodeLossy_append_cons (by decide)]
      rfl
    rw [hdecoded]
    exact (ih hlines).cons (hfree hline)

/-- The texts of the lines of a cut, and of what follows the last of them, unless that is nothing. -/
def texts (lines : List (List Char)) (tail : List Char) : List (List Char) :=
  lines.map withoutReturn ++ if tail = [] then [] else [tail]

theorem ofBytes_of_cuts {lines : List (List UInt8)} {tail : List UInt8} (h : Cuts lineFeed bytes lines tail) :
    ofBytes bytes = (texts (lines.map decodeLossy) (decodeLossy tail)).map String.ofList := by
  rw [ofBytes, split_of_cuts h, texts]
  simp only [List.map_append, List.map_map, Text.decodeLossy_eq_nil_iff]
  congr 1
  · exact List.map_congr_left fun line _ => text_append line
  · split
    · rfl
    · simp [text_of_notMem h.tail]

theorem terminated_of_cuts {lines : List (List UInt8)} {tail : List UInt8} (h : Cuts lineFeed bytes lines tail) :
    terminated bytes = (texts (lines.map decodeLossy) []).map String.ofList := by
  have htail : (if tail = [] then [] else [tail]).filter isTerminated = [] := by
    split <;> simp [isTerminated_of_notMem h.tail]
  have hlines : (lines.map (· ++ [lineFeed])).filter isTerminated = lines.map (· ++ [lineFeed]) := by
    simp [List.filter_eq_self, isTerminated_append]
  rw [terminated, split_of_cuts h, List.filter_append, htail, hlines, texts]
  simp [text_append]

/-! ## Lines that were written -/

/-- Texts as lines, each with or without a carriage return before its line feed. -/
def written (lines : List (String × Bool)) : List UInt8 :=
  lines.flatMap fun line => line.1.toUTF8.data.toList ++ if line.2 then [carriageReturn, lineFeed] else [lineFeed]

/-- A text that is read as it was written. -/
def Plain (s : String) : Prop := '\n' ∉ s.toList ∧ s.toList.getLast? ≠ some '\r'

/-- The bytes of a written line. -/
def body (line : String × Bool) : List UInt8 :=
  line.1.toUTF8.data.toList ++ if line.2 then [carriageReturn] else []

theorem lineFeed_notMem_body {line : String × Bool} (h : '\n' ∉ line.1.toList) : lineFeed ∉ body line := by
  intro hm
  rcases List.mem_append.mp hm with hm | hm
  -- a line feed among the bytes of a text would be one of its characters
  · obtain ⟨before, after, heq⟩ := List.append_of_mem hm
    have hdecoded := Text.decodeLossy_toUTF8 line.1
    rw [heq, decodeLossy_append_cons (by decide)] at hdecoded
    exact h (hdecoded ▸ List.mem_append_right _ List.mem_cons_self)
  · split at hm
    · exact absurd hm (by decide)
    · cases hm

theorem cuts_written {lines : List (String × Bool)} (h : ∀ line ∈ lines, Plain line.1) :
    Cuts lineFeed (written lines) (lines.map body) [] := by
  induction lines with
  | nil => exact ⟨rfl, List.forall_mem_nil _, List.not_mem_nil⟩
  | cons line lines ih =>
    obtain ⟨hline, hlines⟩ := List.forall_mem_cons.mp h
    have hwritten : written (line :: lines) = body line ++ lineFeed :: written lines := by
      simp only [written, body, List.flatMap_cons]
      split <;> simp
    rw [hwritten]
    exact (ih hlines).cons (lineFeed_notMem_body hline.1)

theorem withoutReturn_body {line : String × Bool} (h : Plain line.1) :
    withoutReturn (decodeLossy (body line)) = line.1.toList := by
  unfold body
  split
  · rw [decodeLossy_append_cons (by decide), Text.decodeLossy_toUTF8, Text.decodeLossy_nil]
    simp [withoutReturn, carriageReturn]
  · rw [List.append_nil, Text.decodeLossy_toUTF8, withoutReturn, if_neg h.2]

theorem texts_written {lines : List (String × Bool)} (h : ∀ line ∈ lines, Plain line.1) :
    (texts ((lines.map body).map decodeLossy) []).map String.ofList = lines.map Prod.fst := by
  simp only [texts, ↓reduceIte, List.append_nil, List.map_map]
  refine List.map_congr_left fun line hm => ?_
  simp only [Function.comp_apply, withoutReturn_body (h line hm), String.ofList_toList]

/-- Plain texts are read as they were written, also where reading fails behind them. -/
theorem ofBytes_written {lines : List (String × Bool)} (h : ∀ line ∈ lines, Plain line.1) :
    ofBytes (written lines) = lines.map Prod.fst ∧ terminated (written lines) = lines.map Prod.fst := by
  have hcuts := cuts_written h
  constructor
  · rw [ofBytes_of_cuts hcuts, Text.decodeLossy_nil, texts_written h]
  · rw [terminated_of_cuts hcuts, texts_written h]

end LogPipeline.Lines
