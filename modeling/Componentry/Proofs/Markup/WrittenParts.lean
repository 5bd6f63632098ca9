import Componentry.Markup.Token
import Componentry.Proofs.Markup.Escaping
import Componentry.Proofs.Markup.NormalForm
import Componentry.Proofs.Text.Blank

/-!
# Reading the parts of written markup

Each part that markup is written from (a start tag with its attributes, an end tag, a comment, a
text) is read back as one token, whatever follows it. What may follow a name inside a tag is a
space or the end of the tag, and a text goes on to the next `<`; `scanMarkup?_startTag`,
`scanMarkup?_endTag`, `scanMarkup?_comment` and `scanToken?_text` are the four results.
-/

namespace Componentry.Markup

open Componentry.Text

/-- A space or the end of the tag comes next. -/
def AtPartEnd (s : List Char) : Prop := ∃ t, s = ' ' :: t ∨ s = '>' :: t

theorem AtPartEnd.exists_cons {s : List Char} (h : AtPartEnd s) :
    ∃ c t, s = c :: t ∧ continuesTag c = false ∧ continuesName c = false := by
  obtain ⟨t, rfl | rfl⟩ := h
  · exact ⟨' ', t, rfl, by decide, by decide⟩
  · exact ⟨'>', t, rfl, by decide, by decide⟩

/-- Letters, digits and hyphens are no markup. -/
theorem continuesName_of_isAlphanum {c : Char} (h : c.isAlphanum = true ∨ c = '-') :
    continuesName c = true ∧ c ≠ '<' ∧ c ≠ '&' := by
  rcases h with h | rfl
  · have hne : ∀ d ∈ ['/', '>', '=', '<', '&'], c ≠ d := by
      rintro d hd rfl
      simp only [List.mem_cons, List.not_mem_nil, or_false] at hd
      rcases hd with rfl | rfl | rfl | rfl | rfl <;> exact absurd h (by decide)
    simp [continuesName, continuesTag, isBlank_eq_false_of_isAlphanum h, hne]
  · decide

theorem takeWhile_append_cons {p : Char → Bool} {a t : List Char} {c : Char}
    (ha : ∀ d ∈ a, p d = true) (hc : p c = false) : (a ++ c :: t).takeWhile p = a := by
  rw [List.takeWhile_append_of_pos ha, List.takeWhile_cons_of_neg (by simp [hc]),
    List.append_nil]

theorem dropWhile_append_cons {p : Char → Bool} {a t : List Char} {c : Char}
    (ha : ∀ d ∈ a, p d = true) (hc : p c = false) : (a ++ c :: t).dropWhile p = c :: t := by
  rw [List.dropWhile_append_of_pos ha, List.dropWhile_cons_of_neg (by simp [hc])]

theorem isGap_of_isBlank_eq_false {c : Char} (h : isBlank c = false) : isGap c = false := by
  cases hc : isGap c with
  | false => rfl
  | true =>
      have hb := isBlank_of_isAsciiBlank (isAsciiBlank_of_isGap hc)
      exact absurd (hb.symm.trans h) Bool.noConfusion

theorem toLower_of_isUpper_eq_false {c : Char} (h : c.isUpper = false) : c.toLower = c := by
  unfold Char.toLower
  split
  · next hc =>
      have hup : c.isUpper = true := decide_eq_true hc
      exact absurd (hup.symm.trans h) Bool.noConfusion
  · rfl

theorem isAlpha_of_isLower {c : Char} (h : c.isLower = true) : c.isAlpha = true := by
  change (c.isUpper || c.isLower) = true
  rw [h, Bool.or_true]

/-- A tag is read up to the first character that cannot continue it. -/
theorem tagName?_cons_append {c d : Char} {cs : List Char} (hc : c.isAlpha = true)
    (hcs : ∀ e ∈ cs, continuesTag e = true) (hd : continuesTag d = false) (t : List Char) :
    tagName? (c :: cs ++ d :: t) = some ((c :: cs).map Char.toLower, d :: t) := by
  rw [List.cons_append, tagName?, if_pos hc, takeWhile_append_cons hcs hd,
    dropWhile_append_cons hcs hd]

namespace NormalTag

variable {tag : String}

theorem exists_cons (h : NormalTag tag) : ∃ c r, tag.toList = c :: r ∧ c.isLower = true := by
  have hb := h.begins
  cases ht : tag.toList with
  | nil => simp [ht] at hb
  | cons c r => exact ⟨c, r, rfl, by simpa [ht] using hb⟩

theorem map_toLower (h : NormalTag tag) : tag.toList.map Char.toLower = tag.toList := by
  have hid : ∀ c ∈ tag.toList, c.toLower = id c := fun c hc =>
    toLower_of_isUpper_eq_false (h.continues c hc).1
  rw [List.map_congr_left hid, List.map_id]

theorem lower_eq (h : NormalTag tag) : lower tag = tag := by
  rw [lower, h.map_toLower, String.ofList_toList]

theorem continuesTag_of_mem (h : NormalTag tag) {c : Char} (hc : c ∈ tag.toList) :
    continuesTag c = true := by
  obtain ⟨-, hb, hs, hg⟩ := h.continues c hc
  simp [continuesTag, hb, hs, hg]

/-- A tag is read up to the space or the end of the tag after it. -/
theorem tagName?_append (h : NormalTag tag) {r : List Char} (hr : AtPartEnd r) :
    tagName? (tag.toList ++ r) = some (tag.toList, r) := by
  obtain ⟨c, cs, htag, hlow⟩ := h.exists_cons
  obtain ⟨d, t, rfl, hd, -⟩ := hr.exists_cons
  have hcs : ∀ e ∈ cs, continuesTag e = true := fun e he =>
    h.continuesTag_of_mem (htag ▸ List.mem_cons_of_mem c he)
  have hmap : (c :: cs).map Char.toLower = c :: cs := htag ▸ h.map_toLower
  rw [htag, tagName?_cons_append (isAlpha_of_isLower hlow) hcs hd, hmap]

end NormalTag

namespace NormalName

variable {name : String}

theorem exists_cons (h : NormalName name) : ∃ c r, name.toList = c :: r ∧
    isBlank c = false ∧ c ≠ '/' ∧ c ≠ '>' ∧ ∀ d ∈ r, continuesName d = true := by
  cases hn : name.toList with
  | nil => exact absurd (String.toList_eq_nil_iff.1 hn) h.ne_empty
  | cons c r =>
      obtain ⟨hb, hs, hg⟩ := h.continues c (hn ▸ List.mem_cons_self)
      refine ⟨c, r, rfl, hb, hs, hg, ?_⟩
      intro d hd
      obtain ⟨hb, hs, hg⟩ := h.continues d (hn ▸ List.mem_cons_of_mem c hd)
      have heq : d ≠ '=' := by
        rintro rfl
        exact h.equals (by rw [hn]; exact hd)
      simp [continuesName, continuesTag, hb, hs, hg, heq]

theorem dropWhile_append (h : NormalName name) (s : List Char) :
    (' ' :: (name.toList ++ s)).dropWhile isGap = name.toList ++ s := by
  obtain ⟨c, r, hname, hb, -⟩ := h.exists_cons
  rw [List.dropWhile_cons_of_pos (by decide), hname, List.cons_append,
    List.dropWhile_cons_of_neg (by simp [isGap_of_isBlank_eq_false hb])]

/-- A name is read up to the first character that cannot continue it. -/
theorem scanName_append (h : NormalName name) {c : Char} (hc : continuesName c = false)
    (t : List Char) : scanName (name.toList ++ c :: t) = (name.toList, c :: t) := by
  obtain ⟨d, r, hname, hb, hs, hg, hr⟩ := h.exists_cons
  rw [hname, List.cons_append]
  by_cases hd : d = '='
  · subst hd
    rw [scanName, takeWhile_append_cons hr hc, dropWhile_append_cons hr hc]
  · have hall : ∀ e ∈ d :: r, continuesName e = true := by
      intro e he
      rcases List.mem_cons.1 he with rfl | he
      · simp [continuesName, continuesTag, hb, hs, hg, hd]
      · exact hr e he
    have hscan : scanName (d :: (r ++ c :: t)) =
        ((d :: (r ++ c :: t)).takeWhile continuesName,
          (d :: (r ++ c :: t)).dropWhile continuesName) := by
      unfold scanName
      split
      · next heq => exact absurd (List.cons.inj heq).1 hd
      · rfl
    rw [hscan, ← List.cons_append, takeWhile_append_cons hall hc, dropWhile_append_cons hall hc]

end NormalName

/-- An attribute with a value is read up to the quote that closes it. -/
theorem scanAttribute_value {name : String} (h : NormalName name) (v : String)
    (r : List Char) :
    scanAttribute (name.toList ++ '=' :: '"' :: (escapeQuoted v ++ '"' :: r)) =
      (⟨name, some v⟩, r) := by
  have hq : ∀ c ∈ escapeQuoted v, decide (c ≠ '"') = true := fun c hc =>
    decide_eq_true fun heq => not_mem_escapeQuoted v (heq ▸ hc)
  have hvalue : scanValue ('"' :: (escapeQuoted v ++ '"' :: r)) = (escapeQuoted v, r) := by
    rw [scanValue, takeWhile_append_cons hq (by decide), dropWhile_append_cons hq (by decide),
      List.tail_cons]
  have heq : ('=' :: '"' :: (escapeQuoted v ++ '"' :: r)).dropWhile isGap =
      '=' :: '"' :: (escapeQuoted v ++ '"' :: r) :=
    List.dropWhile_cons_of_neg (by decide)
  have hquote : ('"' :: (escapeQuoted v ++ '"' :: r)).dropWhile isGap =
      '"' :: (escapeQuoted v ++ '"' :: r) :=
    List.dropWhile_cons_of_neg (by decide)
  rw [scanAttribute, h.scanName_append (by decide)]
  simp only [heq, hquote, hvalue, decode_escapeQuoted, String.ofList_toList]

/-- An attribute without value is read up to the space or the end of the tag after it, unless an
equals sign follows the spaces. -/
theorem scanAttribute_name {name : String} (h : NormalName name) {r : List Char}
    (hr : AtPartEnd r) (heq : (r.dropWhile isGap).head? ≠ some '=') :
    scanAttribute (name.toList ++ r) = (⟨name, none⟩, r) := by
  obtain ⟨c, t, rfl, -, hc⟩ := hr.exists_cons
  rw [scanAttribute, h.scanName_append hc]
  simp only [String.ofList_toList]
  split
  · next hv => simp [hv] at heq
  · rfl

theorem pass_of_ne {c : Char} {s : List Char} (hs : c ≠ '/') (hg : c ≠ '>') :
    pass (c :: s) = .attribute (scanAttribute (c :: s)).1 (scanAttribute (c :: s)).2 := by
  unfold pass
  split <;> simp_all

theorem attributes?_of_close {read : List Attribute} {s r : List Char} {b : Bool}
    (h : pass (s.dropWhile isGap) = .close b r) : attributes? read s = some (read, b, r) := by
  rw [attributes?.eq_def]
  split <;> simp_all

theorem attributes?_of_attribute {read : List Attribute} {s r : List Char} {a : Attribute}
    (h : pass (s.dropWhile isGap) = .attribute a r) (hlt : r.length < s.length) :
    attributes? read s = attributes? (addAttribute read a) r := by
  rw [attributes?.eq_def]
  split <;> simp_all

theorem addAttribute_of_new {read : List Attribute} {a : Attribute}
    (h : ∀ b ∈ read, sameName b.name a.name = false) : addAttribute read a = read ++ [a] := by
  have hany : (read.any fun b => sameName b.name a.name) = false :=
    List.any_eq_false.2 fun b hb => by simp [h b hb]
  rw [addAttribute, hany]
  rfl

theorem NormalAttributes.tail {a : Attribute} {as : List Attribute}
    (h : NormalAttributes (a :: as)) : NormalAttributes as :=
  ⟨fun b hb => h.names b (List.mem_cons_of_mem a hb), h.distinct.of_cons, h.separate.tail⟩

/-- Behind an attribute comes the space before the next one or the end of the tag. -/
theorem atPartEnd_attributes (as : List Attribute) (r : List Char) :
    AtPartEnd (as.flatMap Attribute.written ++ '>' :: r) := by
  cases as with
  | nil => exact ⟨r, .inr rfl⟩
  | cons a as => exact ⟨_, .inl (by rw [List.flatMap_cons, Attribute.written]; rfl)⟩

/-- Behind an attribute without value no equals sign comes. -/
theorem NormalAttributes.head?_ne {a : Attribute} {as : List Attribute}
    (h : NormalAttributes (a :: as)) (ha : a.value = none) (r : List Char) :
    ((as.flatMap Attribute.written ++ '>' :: r).dropWhile isGap).head? ≠ some '=' := by
  cases as with
  | nil => simp [isGap]
  | cons b bs =>
      have hb := h.names b (List.mem_cons_of_mem a List.mem_cons_self)
      have hsep : b.name.toList.head? ≠ some '=' :=
        (List.isChain_cons_cons.1 h.separate).1 ha
      obtain ⟨c, n, hn, -⟩ := hb.exists_cons
      rw [List.flatMap_cons, Attribute.written, List.append_assoc, List.append_assoc,
        List.cons_append, hb.dropWhile_append, hn]
      simpa [hn] using hsep

/-- The attribute that was written first is read first. -/
theorem scanAttribute_written {a : Attribute} {as : List Attribute}
    (h : NormalAttributes (a :: as)) (r : List Char) :
    scanAttribute (((a :: as).flatMap Attribute.written ++ '>' :: r).dropWhile isGap) =
      (a, as.flatMap Attribute.written ++ '>' :: r) := by
  have hname := h.names a List.mem_cons_self
  rw [List.flatMap_cons, Attribute.written, List.append_assoc, List.append_assoc,
    List.cons_append, hname.dropWhile_append]
  obtain ⟨name, value⟩ := a
  cases value with
  | none => exact scanAttribute_name hname (atPartEnd_attributes as r) (h.head?_ne rfl r)
  | some v =>
      simpa using scanAttribute_value hname v (as.flatMap Attribute.written ++ '>' :: r)

/-- One pass reads the attribute that was written first. -/
theorem pass_written {a : Attribute} {as : List Attribute} (h : NormalAttributes (a :: as))
    (r : List Char) :
    pass (((a :: as).flatMap Attribute.written ++ '>' :: r).dropWhile isGap) =
      .attribute a (as.flatMap Attribute.written ++ '>' :: r) := by
  have hscan := scanAttribute_written h r
  have hname := h.names a List.mem_cons_self
  obtain ⟨c, n, hn, -, hs, hg, -⟩ := hname.exists_cons
  rw [List.flatMap_cons, Attribute.written, List.append_assoc, List.append_assoc,
    List.cons_append, hname.dropWhile_append, hn, List.cons_append] at hscan ⊢
  rw [pass_of_ne hs hg, hscan]

/-- The attributes of a tag are read as they were written. -/
theorem attributes?_written {read as : List Attribute} (h : NormalAttributes as)
    (hnew : ∀ a ∈ read, ∀ b ∈ as, sameName a.name b.name = false) (r : List Char) :
    attributes? read (as.flatMap Attribute.written ++ '>' :: r) = some (read ++ as, false, r) := by
  induction as generalizing read with
  | nil =>
      have hclose : pass (('>' :: r).dropWhile isGap) = .close false r := rfl
      rw [List.flatMap_nil, List.nil_append, attributes?_of_close hclose, List.append_nil]
  | cons a as ih =>
      have hlt : (as.flatMap Attribute.written ++ '>' :: r).length <
          ((a :: as).flatMap Attribute.written ++ '>' :: r).length := by
        rw [List.flatMap_cons, Attribute.written]
        simp only [List.length_append, List.length_cons]
        omega
      have hadd : addAttribute read a = read ++ [a] :=
        addAttribute_of_new fun b hb => hnew b hb a List.mem_cons_self
      have hrest : ∀ b ∈ read ++ [a], ∀ c ∈ as, sameName b.name c.name = false := by
        intro b hb c hc
        rcases List.mem_append.1 hb with hb | hb
        · exact hnew b hb c (List.mem_cons_of_mem a hc)
        · rw [List.mem_singleton.1 hb]
          exact List.rel_of_pairwise_cons h.distinct hc
      rw [attributes?_of_attribute (pass_written h r) hlt, hadd, ih h.tail hrest,
        List.append_assoc, List.singleton_append]

theorem scanMarkup?_of_isAlpha {c : Char} (h : c.isAlpha = true) (s : List Char) :
    scanMarkup? (c :: s) =
      match tagName? (c :: s) with
      | some (name, r) =>
        (attributes? [] r).map fun t => (.startTag (String.ofList name) t.1 t.2.1, t.2.2)
      | none => some (.text ['<'], c :: s) := by
  unfold scanMarkup?
  split
  · next heq => exact absurd ((List.cons.inj heq).1 ▸ h) (by decide)
  · next heq => exact absurd ((List.cons.inj heq).1 ▸ h) (by decide)
  · next heq => exact absurd ((List.cons.inj heq).1 ▸ h) (by decide)
  · rfl

/-- A written start tag is read as the tag and its attributes. -/
theorem scanMarkup?_startTag {tag : String} {as : List Attribute} (ht : NormalTag tag)
    (ha : NormalAttributes as) (r : List Char) :
    scanMarkup? (tag.toList ++ (as.flatMap Attribute.written ++ '>' :: r)) =
      some (.startTag tag as false, r) := by
  obtain ⟨c, cs, htag, hlow⟩ := ht.exists_cons
  have halpha := isAlpha_of_isLower hlow
  have hname := ht.tagName?_append (atPartEnd_attributes as r)
  have hattributes := @attributes?_written [] as ha (by simp) r
  rw [htag, List.cons_append] at hname ⊢
  rw [scanMarkup?_of_isAlpha halpha, hname]
  simp only [hattributes, Option.map_some, ← htag, String.ofList_toList, List.nil_append]

theorem untilClose_cons (r : List Char) : untilClose ('>' :: r) = ([], r) := by
  have h : breakOn? ['>'] ('>' :: r) = some ([], r) := breakOn?_self_append ['>'] r
  rw [untilClose, h]
  rfl

/-- A written end tag is read as the end of its element. -/
theorem scanMarkup?_endTag {tag : String} (h : NormalTag tag) (r : List Char) :
    scanMarkup? ('/' :: (tag.toList ++ '>' :: r)) = some (.endTag tag, r) := by
  have hname : tagName? (tag.toList ++ '>' :: r) = some (tag.toList, '>' :: r) :=
    h.tagName?_append ⟨r, .inr rfl⟩
  rw [scanMarkup?, scanEndTag, hname]
  simp only [untilClose_cons, String.ofList_toList]

/-- The end of a comment does not begin in its content, unless it stands there. -/
theorem commentEnd_not_prefix {s b r : List Char} (h : ¬ ['-', '-', '>'] <:+: s) (hb : b ≠ [])
    (hs : b <:+ s) : ¬ ['-', '-', '>'] <+: b ++ ['-', '-', '>'] ++ r := by
  rintro ⟨t, ht⟩
  match b, hb with
  | [c], _ => simp at ht
  | [c, d], _ => simp at ht
  | c :: d :: e :: b, _ =>
      simp only [List.cons_append, List.cons.injEq, List.nil_append] at ht
      obtain ⟨rfl, rfl, rfl, -⟩ := ht
      exact h ((List.prefix_append ['-', '-', '>'] b).isInfix.trans hs.isInfix)

/-- A written comment is read as its content. -/
theorem scanMarkup?_comment {s : List Char} (h : ¬ ['-', '-', '>'] <:+: s) (r : List Char) :
    scanMarkup? ('!' :: '-' :: '-' :: (s ++ ['-', '-', '>'] ++ r)) = some (.comment s, r) := by
  have hopen : after? ['-', '-'] ('-' :: '-' :: (s ++ ['-', '-', '>'] ++ r)) =
      some (s ++ ['-', '-', '>'] ++ r) := after?_append ['-', '-'] _
  have hclose : breakOn? ['-', '-', '>'] (s ++ ['-', '-', '>'] ++ r) = some (s, r) :=
    breakOn?_append fun b hb hs => commentEnd_not_prefix h hb hs
  rw [scanMarkup?, scanDeclaration, hopen]
  simp only [hclose]

/-- Nothing or markup comes next. -/
def AtMarkup (s : List Char) : Prop := s = [] ∨ ∃ t, s = '<' :: t

/-- A text is read up to the markup after it. -/
theorem scanToken?_text {c : Char} {s r : List Char} (h : '<' ∉ c :: s) (hr : AtMarkup r) :
    scanToken? c (s ++ r) = some (.text (c :: s), r) := by
  have hc : c ≠ '<' := fun heq => h (heq ▸ List.mem_cons_self)
  have hs : ∀ d ∈ s, decide (d ≠ '<') = true := fun d hd =>
    decide_eq_true fun heq => h (heq ▸ List.mem_cons_of_mem c hd)
  rw [scanToken?, if_neg hc, List.takeWhile_append_of_pos hs, List.dropWhile_append_of_pos hs]
  rcases hr with rfl | ⟨t, rfl⟩
  · rw [List.takeWhile_nil, List.dropWhile_nil, List.append_nil]
  · rw [List.takeWhile_cons_of_neg (by simp), List.dropWhile_cons_of_neg (by simp),
      List.append_nil]

end Componentry.Markup
