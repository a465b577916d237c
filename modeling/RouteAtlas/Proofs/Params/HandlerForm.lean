import RouteAtlas.Proofs.Params.RequestIdent

/-!
# Forms of handlers

A handler is a function expression, a method, or an arrow function with or without parentheses.
Each of these forms shows its first parameter, whatever stands behind it: the parameter is read
where the form has it, unless it is one of the words that name none.  A list that opens with
anything but a name shows that there is no parameter to read.
-/

namespace RouteAtlas.Source

open Text

/-- The word `async` and blanks behind it, or nothing. -/
def IsAsyncMark (cs : List Char) : Prop :=
  cs = [] ∨ ∃ blanks, IsBlanks blanks ∧ cs = "async".toList ++ blanks

/-- The word `async` and at least one blank behind it, or nothing. -/
def IsAsyncWord (cs : List Char) : Prop :=
  cs = [] ∨ ∃ blanks, blanks ≠ [] ∧ IsBlanks blanks ∧ cs = "async".toList ++ blanks

/-- A name and blanks behind it, or nothing. -/
def IsListName (cs : List Char) : Prop :=
  cs = [] ∨ ∃ name blanks, IsIdent name ∧ IsBlanks blanks ∧ cs = name ++ blanks

/-- What stands in front of the parameter list of a function expression, or of a parenthesised
arrow function or a method. -/
inductive OpensList : List Char → Prop
  | function {blanks async between : List Char} (hblanks : IsBlanks blanks)
      (hasync : IsAsyncWord async) (hopen : '(' ∉ between) (hequals : '=' ∉ between)
      (hword : StartsOutside isWordChar between) :
      OpensList (blanks ++ (async ++ ("function".toList ++ between)))
  | named {blanks async name : List Char} (hblanks : IsBlanks blanks)
      (hasync : IsAsyncMark async) (hname : IsListName name) :
      OpensList (blanks ++ (async ++ name))

/-- A source that shows its first parameter, or shows that its first parameter is no name. -/
inductive ShowsParam : List Char → Option (List Char) → Prop
  | listed {front blanks param rest : List Char} (hfront : OpensList front)
      (hblanks : IsBlanks blanks) (hparam : IsIdent param)
      (hrest : StartsOutside isIdentPart rest) :
      ShowsParam (front ++ '(' :: (blanks ++ (param ++ rest))) (some param)
  | unnamed {front blanks rest : List Char} (hfront : OpensList front)
      (hblanks : IsBlanks blanks) (hblank : StartsOutside isBlank rest)
      (hstart : StartsOutside isIdentStart rest) :
      ShowsParam (front ++ '(' :: (blanks ++ rest)) none
  | bare {blanks async param between rest : List Char} (hblanks : IsBlanks blanks)
      (hasync : IsAsyncWord async) (hparam : IsIdent param) (hword : param ≠ "function".toList)
      (hdollar : ¬ "function$".toList <+: param) (hbetween : IsBlanks between) :
      ShowsParam (blanks ++ (async ++ (param ++ (between ++ '=' :: '>' :: rest)))) (some param)

section Openings

theorem IsAsyncWord.isAsyncMark {cs : List Char} (hcs : IsAsyncWord cs) : IsAsyncMark cs := by
  rcases hcs with rfl | ⟨blanks, -, hblanks, rfl⟩
  · exact Or.inl rfl
  · exact Or.inr ⟨blanks, hblanks, rfl⟩

theorem startsOutside_isBlank_async {async rest : List Char} (hasync : IsAsyncMark async)
    (hrest : StartsOutside isBlank rest) : StartsOutside isBlank (async ++ rest) := by
  rcases hasync with rfl | ⟨blanks, -, rfl⟩
  · exact hrest
  · rw [List.append_assoc]
    exact startsOutside_isBlank_ident isIdent_async _

theorem startsOutside_isBlank_name {name : List Char} (hname : IsListName name) :
    StartsOutside isBlank name := by
  rcases hname with rfl | ⟨name, blanks, hname, -, rfl⟩
  · exact startsOutside_nil isBlank
  · exact startsOutside_isBlank_ident hname blanks

theorem skipAsyncWord_async_append {blanks rest : List Char} (hne : blanks ≠ [])
    (hblanks : IsBlanks blanks) (hrest : StartsOutside isBlank rest) :
    skipAsyncWord ("async".toList ++ blanks ++ rest) = rest := by
  obtain ⟨c, blanks, rfl⟩ := List.exists_cons_of_ne_nil hne
  have hlater : IsBlanks blanks := fun d hd => hblanks d (List.mem_cons_of_mem c hd)
  rw [List.append_assoc, List.cons_append, skipAsyncWord_async (hblanks c List.mem_cons_self),
    dropBlanks_append hlater hrest]

/-- The word `async` is passed over in front of a text that does not start with it itself. -/
theorem skipAsyncWord_append {async rest : List Char} (hasync : IsAsyncWord async)
    (hblank : StartsOutside isBlank rest) (hrest : skipAsyncWord rest = rest) :
    skipAsyncWord (async ++ rest) = rest := by
  rcases hasync with rfl | ⟨blanks, hne, hblanks, rfl⟩
  · exact hrest
  · exact skipAsyncWord_async_append hne hblanks hblank

/-- The front of a function expression is recognized, with or without `async`. -/
theorem opensFunction_function {blanks async between : List Char} (hblanks : IsBlanks blanks)
    (hasync : IsAsyncWord async) (hword : StartsOutside isWordChar between) :
    opensFunction (blanks ++ (async ++ ("function".toList ++ between))) = true := by
  have hfunction := startsOutside_isBlank_ident isIdent_function between
  have hstart : dropBlanks (blanks ++ (async ++ ("function".toList ++ between))) =
      async ++ ("function".toList ++ between) :=
    dropBlanks_append hblanks (startsOutside_isBlank_async hasync.isAsyncMark hfunction)
  have hskip : skipAsyncWord (async ++ ("function".toList ++ between)) =
      "function".toList ++ between :=
    skipAsyncWord_append hasync hfunction rfl
  have hstrip : stripHead? "function".toList ("function".toList ++ between) = some between :=
    stripHead?_eq_some_iff.mpr rfl
  rw [opensFunction, hstart, hskip, hstrip, Option.any_some, Bool.not_eq_true']
  cases between with
  | nil => rfl
  | cons c between => exact startsOutside_cons.mp hword

theorem isName_name {name : List Char} (hname : IsListName name) : isName name = true := by
  rcases hname with rfl | ⟨name, blanks, hname, hblanks, rfl⟩
  · rfl
  · rw [isName, takeIdent?_eq_some_iff.mpr ⟨hname, rfl, hblanks.startsOutside_isIdentPart⟩]
    simp [dropBlanks_eq_nil hblanks]

/-- The front of an arrow function's or a method's list is recognized. -/
theorem opensNamed_named {blanks async name : List Char} (hblanks : IsBlanks blanks)
    (hasync : IsAsyncMark async) (hname : IsListName name) :
    opensNamed (blanks ++ (async ++ name)) = true := by
  have hblank := startsOutside_isBlank_name hname
  rw [opensNamed, dropBlanks_append hblanks (startsOutside_isBlank_async hasync hblank)]
  rcases hasync with rfl | ⟨between, hbetween, rfl⟩
  · rw [List.nil_append, isName_name hname, Bool.or_true]
  · have hstrip : stripHead? "async".toList ("async".toList ++ between ++ name) =
        some (between ++ name) := by
      rw [stripHead?_eq_some_iff, List.append_assoc]
    rw [hstrip, Option.any_some, dropBlanks_append hbetween hblank, isName_name hname,
      Bool.true_or]

/-- Every form in which a list opens is recognized. -/
theorem OpensList.opens {front : List Char} (hfront : OpensList front) :
    (opensFunction front || opensNamed front) = true := by
  cases hfront with
  | function hblanks hasync _ _ hword =>
      rw [opensFunction_function hblanks hasync hword, Bool.true_or]
  | named hblanks hasync hname => rw [opensNamed_named hblanks hasync hname, Bool.or_true]

theorem IsAsyncMark.not_mem {async : List Char} (hasync : IsAsyncMark async) {mark : Char}
    (hmark : IsMark mark) : mark ∉ async := by
  rcases hasync with rfl | ⟨blanks, hblanks, rfl⟩
  · exact List.not_mem_nil
  · rw [List.mem_append, not_or]
    exact ⟨not_mem_ident isIdent_async hmark.isIdentPart_eq,
      not_mem_blanks hblanks hmark.isBlank_eq⟩

theorem IsListName.not_mem {name : List Char} (hname : IsListName name) {mark : Char}
    (hmark : IsMark mark) : mark ∉ name := by
  rcases hname with rfl | ⟨name, blanks, hname, hblanks, rfl⟩
  · exact List.not_mem_nil
  · rw [List.mem_append, not_or]
    exact ⟨not_mem_ident hname hmark.isIdentPart_eq, not_mem_blanks hblanks hmark.isBlank_eq⟩

/-- No parenthesis and no arrow stands in front of the list. -/
theorem OpensList.not_mem {front : List Char} (hfront : OpensList front) :
    '(' ∉ front ∧ '=' ∉ front := by
  cases hfront with
  | @function blanks async between hblanks hasync hopen hequals _ =>
      have hfree {mark : Char} (hmark : IsMark mark) (hbetween : mark ∉ between) :
          mark ∉ blanks ++ (async ++ ("function".toList ++ between)) := by
        simp only [List.mem_append, not_or]
        exact ⟨not_mem_blanks hblanks hmark.isBlank_eq, hasync.isAsyncMark.not_mem hmark,
          not_mem_ident isIdent_function hmark.isIdentPart_eq, hbetween⟩
      exact ⟨hfree isMark_paren hopen, hfree isMark_equals hequals⟩
  | @named blanks async name hblanks hasync hname =>
      have hfree {mark : Char} (hmark : IsMark mark) : mark ∉ blanks ++ (async ++ name) := by
        simp only [List.mem_append, not_or]
        exact ⟨not_mem_blanks hblanks hmark.isBlank_eq, hasync.not_mem hmark, hname.not_mem hmark⟩
      exact ⟨hfree isMark_paren, hfree isMark_equals⟩

/-- In front of every opened list the forms agree on the parameter that stands in it. -/
theorem shownIdent?_of_opensList {front : List Char} (hfront : OpensList front)
    (behind : List Char) : shownIdent? (front ++ '(' :: behind) = identAfterBlanks? behind := by
  rw [shownIdent?_append_paren hfront.not_mem.1 hfront.not_mem.2, hfront.opens, if_pos rfl]

end Openings

section Arrows

variable {param between : List Char}

/-- A word that a text starts with is the start of the name that the text starts with. -/
theorem eq_append_of_stripHead? {word rest : List Char} (hword : IsIdent word)
    (hparam : IsIdent param) (hbetween : IsBlanks between)
    (hstrip : stripHead? word (param ++ between) = some rest) :
    param = word ++ rest.takeWhile isIdentPart := by
  calc
    param = (param ++ between).takeWhile isIdentPart :=
      (hbetween.startsOutside_isIdentPart.takeWhile_run hparam.isIdentPart_of_mem).symm
    _ = (word ++ rest).takeWhile isIdentPart := by rw [stripHead?_eq_some_iff.mp hstrip]
    _ = word ++ rest.takeWhile isIdentPart :=
      List.takeWhile_append_of_pos hword.isIdentPart_of_mem

/-- A bare parameter is passed over only where it is the word `async` itself. -/
theorem skipAsyncWord_bare (hparam : IsIdent param) (hbetween : IsBlanks between) :
    skipAsyncWord (param ++ between) = param ++ between ∨
      skipAsyncWord (param ++ between) = [] := by
  rcases skipAsyncWord_cases (param ++ between) with ⟨c, rest, hc, hcs, hskip⟩ | hskip
  · right
    have hpart : ¬ isIdentPart c = true := by
      simp [isIdentPart_eq_false_of_isBlank hc]
    have hname := eq_append_of_stripHead? isIdent_async hparam hbetween
      (stripHead?_eq_some_iff.mpr hcs)
    rw [List.takeWhile_cons_of_neg hpart, List.append_nil] at hname
    rw [hname, List.append_cancel_left_eq] at hcs
    have hrest : IsBlanks rest := fun d hd => hbetween d (hcs ▸ List.mem_cons_of_mem c hd)
    rw [hskip, dropBlanks_eq_nil hrest]
  · exact Or.inl hskip

theorem skipAsyncWord_async_bare {async : List Char} (hasync : IsAsyncWord async)
    (hparam : IsIdent param) (hbetween : IsBlanks between) :
    skipAsyncWord (async ++ (param ++ between)) = param ++ between ∨
      async = [] ∧ skipAsyncWord (async ++ (param ++ between)) = [] := by
  rcases hasync with rfl | ⟨blanks, hne, hblanks, rfl⟩
  · rcases skipAsyncWord_bare hparam hbetween with hskip | hskip
    · exact Or.inl hskip
    · exact Or.inr ⟨rfl, hskip⟩
  · left
    apply skipAsyncWord_async_append hne hblanks
    exact startsOutside_isBlank_ident hparam between

theorem dropBlanks_bare {blanks async : List Char} (hblanks : IsBlanks blanks)
    (hasync : IsAsyncWord async) (hparam : IsIdent param) :
    dropBlanks (blanks ++ (async ++ (param ++ between))) = async ++ (param ++ between) :=
  dropBlanks_append hblanks
    (startsOutside_isBlank_async hasync.isAsyncMark (startsOutside_isBlank_ident hparam between))

/-- A bare parameter whose name does not start like the head of a function makes no function. -/
theorem opensFunction_bare {blanks async : List Char} (hblanks : IsBlanks blanks)
    (hasync : IsAsyncWord async) (hparam : IsIdent param) (hword : param ≠ "function".toList)
    (hdollar : ¬ "function$".toList <+: param) (hbetween : IsBlanks between) :
    opensFunction (blanks ++ (async ++ (param ++ between))) = false := by
  rw [opensFunction, dropBlanks_bare hblanks hasync hparam]
  rcases skipAsyncWord_async_bare hasync hparam hbetween with hskip | ⟨-, hskip⟩
  · rw [hskip]
    cases hstrip : stripHead? "function".toList (param ++ between) with
    | none => rfl
    | some rest =>
        have hname := eq_append_of_stripHead? isIdent_function hparam hbetween hstrip
        cases rest with
        | nil =>
            rw [List.takeWhile_nil, List.append_nil] at hname
            exact absurd hname hword
        | cons c rest =>
            rw [Option.any_some, Bool.not_eq_false']
            by_cases hc : isIdentPart c = true
            · rw [List.takeWhile_cons_of_pos hc] at hname
              rw [isIdentPart, Bool.or_eq_true, beq_iff_eq] at hc
              rcases hc with hwordChar | rfl
              · exact hwordChar
              · exact absurd ⟨rest.takeWhile isIdentPart, hname.symm⟩ hdollar
            · rw [List.takeWhile_cons_of_neg hc, List.append_nil] at hname
              exact absurd hname hword
  · rw [hskip]
    rfl

theorem bareParam?_arrow (hparam : IsIdent param) (hbetween : IsBlanks between)
    (rest : List Char) : bareParam? (param ++ between ++ '=' :: '>' :: rest) = some param := by
  have htake : takeIdent? (param ++ between) = some (param, between) :=
    takeIdent?_eq_some_iff.mpr ⟨hparam, rfl, hbetween.startsOutside_isIdentPart⟩
  rw [bareParam?_eq, takeIdent?_append_mark isMark_equals, htake, Option.map_some,
    Option.bind_some, dropBlanks_append_mark isMark_equals, dropBlanks_eq_nil hbetween]
  rfl

/-- A bare parameter in front of an arrow is found behind blanks and `async`. -/
theorem arrowParam?_bare {blanks async : List Char} (hblanks : IsBlanks blanks)
    (hasync : IsAsyncWord async) (hparam : IsIdent param) (hbetween : IsBlanks between)
    (rest : List Char) :
    arrowParam? (blanks ++ (async ++ (param ++ between)) ++ '=' :: '>' :: rest) =
      some param := by
  rw [arrowParam?, dropBlanks_append_mark isMark_equals, dropBlanks_bare hblanks hasync hparam,
    skipAsyncWord_append_mark isMark_equals]
  rcases skipAsyncWord_async_bare hasync hparam hbetween with hskip | ⟨rfl, hskip⟩
  · rw [hskip, bareParam?_arrow hparam hbetween rest, Option.some_or]
  · -- The parameter is the word `async`: it is read when nothing is passed over.
    have hnone : bareParam? ([] ++ '=' :: '>' :: rest) = none := rfl
    rw [hskip, hnone, Option.none_or, List.nil_append, bareParam?_arrow hparam hbetween rest]

/-- No list is read in front of an arrow. -/
theorem listParam?_bare {blanks async : List Char} (hblanks : IsBlanks blanks)
    (hasync : IsAsyncWord async) (hparam : IsIdent param) (hbetween : IsBlanks between)
    (behind : List Char) :
    listParam? (blanks ++ (async ++ (param ++ between)) ++ '=' :: behind) = none := by
  have hfree : '(' ∉ blanks ++ (async ++ (param ++ between)) := by
    simp only [List.mem_append, not_or]
    exact ⟨not_mem_blanks hblanks isMark_paren.isBlank_eq,
      hasync.isAsyncMark.not_mem isMark_paren,
      not_mem_ident hparam isMark_paren.isIdentPart_eq,
      not_mem_blanks hbetween isMark_paren.isBlank_eq⟩
  have hnone : firstParam? ('=' :: behind) = none := rfl
  rw [listParam?_append_mark isMark_equals hfree, hnone, ite_self]

end Arrows

/-- The name that a form shows is its parameter. -/
theorem ShowsParam.shownIdent?_eq {cs : List Char} {param : Option (List Char)}
    (hshows : ShowsParam cs param) : shownIdent? cs = param := by
  cases hshows with
  | listed hfront hblanks hparam hrest =>
      rw [shownIdent?_of_opensList hfront, identAfterBlanks?_ident hblanks hparam hrest]
  | unnamed hfront hblanks hblank hstart =>
      rw [shownIdent?_of_opensList hfront, identAfterBlanks?_eq_none hblanks hblank hstart]
  | @bare blanks async param between rest hblanks hasync hparam hword hdollar hbetween =>
      have hfront : blanks ++ (async ++ (param ++ (between ++ '=' :: '>' :: rest))) =
          blanks ++ (async ++ (param ++ between)) ++ '=' :: '>' :: rest := by
        simp only [List.append_assoc]
      have hfunction := opensFunction_bare hblanks hasync hparam hword hdollar hbetween
      rw [hfront, shownIdent?, functionParam?_append_of_not_opens isMark_equals hfunction,
        listParam?_bare hblanks hasync hparam hbetween,
        arrowParam?_bare hblanks hasync hparam hbetween rest]
      rfl

/-- Two words are no names of parameters. -/
theorem isKeyword_iff {name : List Char} :
    isKeyword name = true ↔ name ∈ ["async".toList, "function".toList] := by
  rw [isKeyword, Bool.or_eq_true, beq_iff_eq, beq_iff_eq, List.mem_cons, List.mem_singleton]

/-- Every form shows its first parameter: it is the request, unless `async` or `function` stands
in its place. -/
theorem requestIdent?_of_showsParam {source : String} {param : Option (List Char)}
    (hshows : ShowsParam source.toList param) :
    requestIdent? source =
      (param.filter fun name => name ∉ ["async".toList, "function".toList]).map
        String.ofList := by
  rw [requestIdent?_eq, hshows.shownIdent?_eq]
  cases param with
  | none => rfl
  | some name =>
      rw [Option.bind_some]
      by_cases hname : name ∈ ["async".toList, "function".toList]
      · have hfilter : (some name).filter (· ∉ ["async".toList, "function".toList]) = none :=
          Option.filter_some_neg (decide_eq_false (not_not_intro hname))
        rw [if_pos (isKeyword_iff.mpr hname), hfilter]
        rfl
      · have hfilter : (some name).filter (· ∉ ["async".toList, "function".toList]) = some name :=
          Option.filter_some_pos (decide_eq_true hname)
        rw [if_neg (mt isKeyword_iff.mp hname), hfilter]
        rfl

theorem requestIdent?_asyncList :
    ShowsParam " async asyncList( req, res) => run(function (x) {})".toList
        (some ['r', 'e', 'q']) ∧
      requestIdent? " async asyncList( req, res) => run(function (x) {})" = some "req" := by
  have hname : IsIdent "asyncList".toList :=
    ⟨'a', ['s', 'y', 'n', 'c', 'L', 'i', 's', 't'], rfl, by decide,
      List.all_eq_true.mp (by decide)⟩
  have hparam : IsIdent ['r', 'e', 'q'] :=
    ⟨'r', ['e', 'q'], rfl, by decide, List.all_eq_true.mp (by decide)⟩
  have hblank : IsBlanks [' '] := by decide
  have hfront : OpensList ([' '] ++ ("async".toList ++ [' '] ++ ("asyncList".toList ++ []))) :=
    OpensList.named hblank (Or.inr ⟨[' '], hblank, rfl⟩)
      (Or.inr ⟨"asyncList".toList, [], hname, by decide, rfl⟩)
  have hrest : StartsOutside isIdentPart (',' :: " res) => run(function (x) {})".toList) :=
    startsOutside_cons.mpr (by decide)
  have hsource : " async asyncList( req, res) => run(function (x) {})".toList =
      [' '] ++ ("async".toList ++ [' '] ++ ("asyncList".toList ++ [])) ++
        '(' :: ([' '] ++ (['r', 'e', 'q'] ++ ',' :: " res) => run(function (x) {})".toList)) := by
    decide +kernel
  have hshows : ShowsParam " async asyncList( req, res) => run(function (x) {})".toList
      (some ['r', 'e', 'q']) := by
    rw [hsource]
    exact ShowsParam.listed hfront hblank hparam hrest
  exact ⟨hshows, requestIdent?_of_showsParam hshows⟩

end RouteAtlas.Source
