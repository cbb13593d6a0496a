import Mathlib.Data.List.Infix
import PageScript.Proofs.Text.Blank
import PageScript.Url.Target

/-!
# Targets without a scheme

A target is read in two steps that look for its scheme in different places. `showsScheme` looks for
`://` anywhere in the text and decides whether `https://` is put in front; the parser looks at the
front only, once it has removed controls from the ends and tabs and line ends from everywhere. The
module says what becomes of a target that does not begin with a scheme, in each of the cases these
two leave.

## Main definitions

* `BeginsWithScheme`: a letter, characters of a scheme and a colon stand at the front of a text.
* `Placed`: the outcome of a reader that does not miss the scheme.

## Main results

* `scheme?_eq_none_iff`: the parser finds no scheme exactly where none stands at the front.
* `parse_eq_noScheme_iff`: the scheme is what a text lacks exactly if none stands at the front of
  the cleaned text. No other part of a URL leads to this error.
* `ofTarget_without_scheme`: a target without a scheme is reached over `https` if `://` does not
  occur in it. Where it occurs, in the query of a plain address for instance, the target is refused.
-/

namespace PageScript.Url

open Text

variable {c : Char} {cs front name rest : List Char} {s t : String}

/-! ### The front of a text -/

/-- A block is contained where it is a part. -/
theorem containsBlock_iff (part cs : List Char) : containsBlock part cs = true ↔ part <:+: cs := by
  induction cs with
  | nil => simp [containsBlock]
  | cons c cs ih =>
    rw [containsBlock, Bool.or_eq_true, List.isPrefixOf_iff_prefix, ih, List.infix_cons_iff]

/-- A letter, any number of characters of a scheme and a colon stand at the front of a text. -/
def BeginsWithScheme (cs : List Char) : Prop :=
  ∃ c name rest, cs = c :: (name ++ ':' :: rest) ∧ isLetter c = true ∧
    ∀ d ∈ name, isSchemeChar d = true

/-- A letter may stand in a scheme. -/
private theorem isSchemeChar_of_isLetter (h : isLetter c = true) : isSchemeChar c = true := by
  simp [isSchemeChar, h]

/-- A scheme in front is read in lower case. -/
theorem scheme?_of_front (hc : isLetter c = true) (hname : ∀ d ∈ name, isSchemeChar d = true) :
    scheme? (c :: (name ++ ':' :: rest)) =
      some (String.ofList ((c :: name).map Char.toLower), rest) := by
  have hrun : ∀ d ∈ c :: name, isSchemeChar d = true :=
    List.forall_mem_cons.mpr ⟨isSchemeChar_of_isLetter hc, hname⟩
  have hspan : (c :: (name ++ ':' :: rest)).span isSchemeChar = (c :: name, ':' :: rest) :=
    span_run hrun (by simp; decide)
  simp only [scheme?, hspan, hc, if_true]

/-- What has a scheme read begins with one. -/
private theorem beginsWithScheme_of_scheme? {read : String × List Char}
    (h : scheme? cs = some read) :
    BeginsWithScheme cs := by
  rw [scheme?.eq_def] at h
  split at h
  next c tail run rest hspan =>
    split at h
    · next hc =>
      rw [List.span_eq_takeWhile_dropWhile, Prod.mk.injEq] at hspan
      have hcut : run ++ ':' :: rest = c :: tail := by
        rw [← hspan.1, ← hspan.2, List.takeWhile_append_dropWhile]
      have hrun : ∀ d ∈ run, isSchemeChar d = true :=
        fun d hd => List.all_eq_true.mp List.all_takeWhile d (hspan.1 ▸ hd)
      cases run with
      | nil =>
        -- the colon itself would be the letter at the front
        obtain ⟨rfl, -⟩ := List.cons.inj hcut
        exact absurd hc (by decide)
      | cons d name =>
        obtain ⟨rfl, rfl⟩ := List.cons.inj hcut
        exact ⟨_, name, rest, rfl, hc, fun e he => hrun e (.tail _ he)⟩
    · cases h
  next => cases h

/-- The parser finds no scheme exactly where none stands at the front. -/
theorem scheme?_eq_none_iff : scheme? cs = none ↔ ¬ BeginsWithScheme cs := by
  constructor
  · rintro hread ⟨c, name, rest, rfl, hc, hname⟩
    rw [scheme?_of_front hc hname] at hread
    cases hread
  · intro hno
    by_contra hread
    obtain ⟨read, hread⟩ := Option.ne_none_iff_exists'.mp hread
    exact hno (beginsWithScheme_of_scheme? hread)

instance : DecidablePred BeginsWithScheme := fun _ =>
  decidable_of_iff _ (not_congr scheme?_eq_none_iff |>.trans not_not)

/-- Cleaning a text leaves what stands in front of its first control or space as it is. -/
theorem cleaned_append (hne : front ≠ []) (hfront : ∀ c ∈ front, ' ' < c) (back : List Char) :
    ∃ back', cleaned (front ++ back) = front ++ back' := by
  have hinner : ∀ c ∈ front, decide (c ≤ ' ') = false := fun c hc => by simpa using hfront c hc
  have hkept : ∀ c ∈ front, decide (c ≠ '\t' ∧ c ≠ '\n' ∧ c ≠ '\r') = true := by
    intro c hc
    have hlt := hfront c hc
    simp only [ne_eq, decide_eq_true_eq]
    refine ⟨?_, ?_, ?_⟩ <;> (rintro rfl; revert hlt; decide)
  -- The front has no character that is taken away, neither at its ends nor within.
  have hstart : (front ++ back).dropWhile (fun c => decide (c ≤ ' ')) = front ++ back := by
    obtain ⟨first, tail, rfl⟩ := List.exists_cons_of_ne_nil hne
    simp [hinner first (by simp)]
  have hend : ∃ back', ((front ++ back).reverse.dropWhile (fun c => decide (c ≤ ' '))).reverse =
      front ++ back' := by
    rw [List.reverse_append, List.dropWhile_append]
    split
    · have hlast : ∀ d ∈ front.reverse.head?, decide (d ≤ ' ') = false :=
        fun d hd => hinner d (List.mem_reverse.mp (List.mem_of_mem_head? hd))
      exact ⟨[], by rw [← List.nil_append front.reverse, dropWhile_run (by simp) hlast]; simp⟩
    · refine ⟨(back.reverse.dropWhile (fun c => decide (c ≤ ' '))).reverse, ?_⟩
      rw [List.reverse_append, List.reverse_reverse]
  obtain ⟨back', hend⟩ := hend
  refine ⟨back'.filter fun c => c ≠ '\t' ∧ c ≠ '\n' ∧ c ≠ '\r', ?_⟩
  rw [cleaned, hstart, hend, List.filter_append, List.filter_eq_self.mpr hkept]

/-! ### Readers behind the scheme

Every reader of the parser but `parse` itself is handed a text whose scheme has been found, and none
of them reports that there is none. -/

section Placed

variable {α β : Type} {x y : Except UrlError α}

/-- The outcome of a reader that does not miss the scheme. -/
def Placed (x : Except UrlError α) : Prop :=
  x ≠ .error .noScheme

/-- A reader that succeeds does not miss the scheme. -/
theorem placed_ok (a : α) : Placed (.ok a) := nofun

/-- Neither of two readers misses the scheme. -/
theorem Placed.ite {p : Prop} [Decidable p] (hx : Placed x) (hy : Placed y) :
    Placed (if p then x else y) := by
  split
  · exact hx
  · exact hy

/-- Readers one after the other do not miss the scheme. -/
theorem Placed.bind {f : α → Except UrlError β} (hx : Placed x) (hf : ∀ a, Placed (f a)) :
    Placed (x >>= f) := by
  cases x with
  | ok a => exact hf a
  | error e => exact fun h => hx (congrArg _ (Except.error.inj h))

/-- What is made of an outcome does not miss the scheme. -/
theorem Placed.map (hx : Placed x) (f : α → β) : Placed (x.map f) := by
  cases x with
  | ok a => exact nofun
  | error e => exact fun h => hx (congrArg _ (Except.error.inj h))

/-- The reader of addresses of four bytes does not miss the scheme. -/
theorem placed_ipv4? (cs : List Char) : Placed (ipv4? cs) := by
  rw [ipv4?]
  split
  · exact placed_ok _
  · exact nofun

/-- The reader of addresses of sixteen bytes does not miss the scheme. -/
theorem placed_ipv6? (cs : List Char) : Placed (ipv6? cs) := by
  delta ipv6?
  extract_lets read
  split
  · exact placed_ok _
  · exact nofun

/-- The reader of addresses in brackets does not miss the scheme. -/
theorem placed_bracketed (cs : List Char) : Placed (Host.bracketed cs) :=
  .ite ((placed_ipv6? _).map _) nofun

/-- The reader of hosts does not miss the scheme. -/
theorem placed_read (cs : List Char) : Placed (Host.read cs) := by
  rw [Host.read.eq_def]
  split
  · exact placed_bracketed _
  · split
    · exact nofun
    · split
      · exact nofun
      · exact nofun
      · exact .ite ((placed_ipv4? _).map _) (placed_ok _)

/-- The reader of opaque hosts does not miss the scheme. -/
theorem placed_readOpaque (cs : List Char) : Placed (Host.readOpaque cs) := by
  rw [Host.readOpaque.eq_def]
  split
  · exact placed_bracketed _
  · exact .ite nofun (placed_ok _)

/-- The reader of ports does not miss the scheme. -/
theorem placed_readPort (usual : Option Nat) (cs : List Char) : Placed (readPort usual cs) := by
  rw [readPort]
  split
  · exact nofun
  · exact .ite nofun (placed_ok _)

/-- The reader of authorities does not miss the scheme. -/
theorem placed_readAuthority (scheme : String) (cs : List Char) :
    Placed (readAuthority scheme cs) := by
  delta readAuthority
  dsimp -zeta only
  -- What follows each of the three refusals is a step of its own: they are taken from the last to
  -- the first.
  extract_lets special named withHost withPlace withUserinfo
  have hhost : ∀ host, Placed (withHost host) := by
    intro host
    dsimp only [withHost]
    refine .ite nofun ?_
    split
    · exact (placed_readPort _ _).bind fun _ => placed_ok _
    · exact placed_ok _
  have hplace : ∀ u, Placed (withPlace u) := by
    intro u
    dsimp only [withPlace]
    exact .ite ((placed_read _).bind hhost) ((placed_readOpaque _).bind hhost)
  have huserinfo : ∀ u, Placed (withUserinfo u) := by
    intro u
    dsimp only [withUserinfo]
    exact .ite nofun (hplace ())
  exact .ite nofun (huserinfo ())

/-- The reader of the hosts of files does not miss the scheme. -/
theorem placed_readFileHost (cs : List Char) : Placed (readFileHost cs) :=
  .ite (placed_ok _) ((placed_read _).map _)

/-- The reader of the places of files does not miss the scheme. -/
theorem placed_readFilePlace (cs : List Char) : Placed (readFilePlace cs) := by
  delta readFilePlace
  dsimp only
  refine .ite (placed_ok _) ((placed_readFileHost _).bind fun host => ?_)
  cases host <;> exact placed_ok _

/-- The reader of files does not miss the scheme. -/
theorem placed_readFile (cs : List Char) : Placed (readFile cs) := by
  rw [readFile]
  split
  · exact placed_ok _
  · split
    · exact placed_ok _
    · exact placed_readFilePlace _

/-- The reader of places does not miss the scheme. -/
theorem placed_readPlace (scheme : String) (cs : List Char) : Placed (readPlace scheme cs) := by
  rw [readPlace.eq_def]
  refine .ite ((placed_readFile _).bind fun _ => placed_ok _)
    (.ite ((placed_readAuthority _ _).bind fun _ => placed_ok _) ?_)
  split
  · exact (placed_readAuthority _ _).bind fun _ => placed_ok _
  · exact placed_ok _
  · exact placed_ok _

end Placed

/-! ### The parser -/

/-- The scheme is what a text lacks exactly if none stands at the front of the cleaned text. -/
theorem parse_eq_noScheme_iff :
    parse s = .error .noScheme ↔ ¬ BeginsWithScheme (cleaned s.toList) := by
  rw [← scheme?_eq_none_iff, parse]
  split
  · next hread => simp [hread]
  · next scheme rest hread =>
    simp only [hread, reduceCtorEq, iff_false]
    exact (placed_readPlace _ _).bind fun _ => placed_ok _

/-- The scheme of a URL is the one read at the front of its text. -/
theorem scheme_of_parse {u : Url} {scheme : String}
    (hread : scheme? (cleaned s.toList) = some (scheme, rest)) (h : parse s = .ok u) :
    u.scheme = scheme := by
  rw [parse, hread] at h
  dsimp only at h
  cases hplace : readPlace scheme (splitTail rest).1 with
  | error e =>
    rw [hplace] at h
    cases h
  | ok place =>
    rw [hplace] at h
    cases h
    rfl

/-- What has the scheme put in front has that scheme. -/
theorem scheme?_https (t : String) :
    ∃ rest, scheme? (cleaned ("https://" ++ t).toList) = some ("https", rest) := by
  have hfront : ∀ c ∈ "https://".toList, ' ' < c := fun c hc =>
    of_decide_eq_true (List.all_eq_true (p := (' ' < ·)).mp (by decide) c hc)
  obtain ⟨back, hback⟩ := cleaned_append (by decide) hfront t.toList
  refine ⟨'/' :: '/' :: back, ?_⟩
  rw [String.toList_append, hback]
  have hname : ∀ d ∈ "ttps".toList, isSchemeChar d = true := List.all_eq_true.mp (by decide)
  exact scheme?_of_front (by decide) hname

/-- A text behind `https://` does not lack a scheme. -/
theorem parse_https_ne_noScheme (t : String) : parse ("https://" ++ t) ≠ .error .noScheme := by
  obtain ⟨rest, hrest⟩ := scheme?_https t
  rw [ne_eq, parse_eq_noScheme_iff, ← scheme?_eq_none_iff, hrest]
  exact nofun

/-! ### Targets -/

/-- A target that begins with a scheme known without slashes begins with a scheme. -/
theorem beginsWithScheme_of_bare {scheme : String} (hbare : scheme ∈ bareSchemes)
    (h : t.startsWith scheme = true) : BeginsWithScheme t.toList := by
  obtain ⟨rest, hrest⟩ := String.startsWith_string_iff.mp h
  rw [← hrest]
  simp only [bareSchemes, List.mem_cons, List.not_mem_nil, or_false] at hbare
  obtain rfl | rfl | rfl := hbare
  · exact ⟨'a', "bout".toList, rest, rfl, by decide, List.all_eq_true.mp (by decide)⟩
  · exact ⟨'d', "ata".toList, rest, rfl, by decide, List.all_eq_true.mp (by decide)⟩
  · exact ⟨'f', "ile".toList, rest, rfl, by decide, List.all_eq_true.mp (by decide)⟩

/-- A target without a scheme at its front shows one exactly if `://` occurs in it. -/
theorem showsScheme_iff (h : ¬ BeginsWithScheme t.toList) :
    showsScheme t = true ↔ "://".toList <:+: t.toList := by
  have hbare : (bareSchemes.any fun scheme => t.startsWith scheme) = false := by
    rw [← Bool.not_eq_true, List.any_eq_true]
    rintro ⟨scheme, hmem, hstart⟩
    exact h (beginsWithScheme_of_bare hmem hstart)
  rw [showsScheme, hbare, Bool.or_false, containsBlock_iff]

/-- What becomes of a target that does not begin with a scheme. Without `://` it is read behind
`https://`, and gives a URL of that scheme or the error of that text. With `://` anywhere in it, in
its path, its query or its fragment, it is read as it stands: the parser then finds no scheme and
refuses the target, which differs from what it gives behind `https://`. It does find one in a target
with `://` whose scheme only controls at the front, tabs or line ends hide. -/
theorem ofTarget_without_scheme (raw : String) (h : ¬ BeginsWithScheme (trimmed raw).toList) :
    (¬ "://".toList <:+: (trimmed raw).toList →
      ofTarget raw = parse ("https://" ++ trimmed raw) ∧
        ∀ u, ofTarget raw = .ok u → u.scheme = "https") ∧
    ("://".toList <:+: (trimmed raw).toList → ¬ BeginsWithScheme (cleaned (trimmed raw).toList) →
      ofTarget raw = .error .noScheme ∧ ofTarget raw ≠ parse ("https://" ++ trimmed raw)) ∧
    ("://".toList <:+: (trimmed raw).toList → BeginsWithScheme (cleaned (trimmed raw).toList) →
      ofTarget raw = parse (trimmed raw) ∧ ofTarget raw ≠ .error .noScheme) := by
  have hshows := showsScheme_iff h
  -- The mark decides whether the scheme is put in front, and the front whether there is one.
  refine ⟨fun hplain => ?_, fun hmark hhidden => ?_, fun hmark hhidden => ?_⟩
  · have hread : ofTarget raw = parse ("https://" ++ trimmed raw) := by
      rw [ofTarget, ofTrimmed, if_neg (hshows.not.mpr hplain)]
    obtain ⟨rest, hrest⟩ := scheme?_https (trimmed raw)
    exact ⟨hread, fun u hu => scheme_of_parse hrest (hread ▸ hu)⟩
  · have hread : ofTarget raw = .error .noScheme := by
      rw [ofTarget, ofTrimmed, if_pos (hshows.mpr hmark), parse_eq_noScheme_iff]
      exact hhidden
    exact ⟨hread, hread ▸ (parse_https_ne_noScheme _).symm⟩
  · have hread : ofTarget raw = parse (trimmed raw) := by
      rw [ofTarget, ofTrimmed, if_pos (hshows.mpr hmark)]
    exact ⟨hread, hread ▸ fun hnone => parse_eq_noScheme_iff.mp hnone hhidden⟩

theorem ofTarget_without_scheme_host :
    ¬ BeginsWithScheme (trimmed " example.com/a ").toList ∧
    ofTarget " example.com/a " = parse ("https://" ++ trimmed " example.com/a ") ∧
    ¬ BeginsWithScheme (trimmed "example.com/a?b=c://d").toList ∧
    ofTarget "example.com/a?b=c://d" = .error .noScheme :=
  have hhost : ¬ BeginsWithScheme (trimmed " example.com/a ").toList := by decide +kernel
  have hquery : ¬ BeginsWithScheme (trimmed "example.com/a?b=c://d").toList := by decide +kernel
  ⟨hhost, ((ofTarget_without_scheme _ hhost).1 (by decide +kernel)).1,
    hquery, ((ofTarget_without_scheme _ hquery).2.1 (by decide +kernel) (by decide +kernel)).1⟩

/-- An address that hands another one on in its query is refused, although it is a URL behind
`https://`. -/
theorem ofTarget_login_redirect :
    ¬ BeginsWithScheme (trimmed "example.com/login?next=https://example.com/home").toList ∧
    ofTarget "example.com/login?next=https://example.com/home" = .error .noScheme ∧
    (parse ("https://" ++ trimmed "example.com/login?next=https://example.com/home")).map text =
      .ok "https://example.com/login?next=https://example.com/home" := by
  decide +kernel

end PageScript.Url
