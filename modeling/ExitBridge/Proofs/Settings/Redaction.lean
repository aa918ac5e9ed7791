/-
  What descriptions of URLs and settings keep to themselves.

  The user and password of a URL stand between its scheme and the last at-sign before the first
  slash. Their text may hold at-signs, colons and fragment signs, and even the beginning of the mark
  that ends a scheme; what is shown depends on none of it.

  * `redactChars_user`: what is shown of a URL with a user; `redactChars_of_no_user`: all of any
    other.
  * `Settings.describe_of_alike`: settings that differ only in secrets look the same.
  * `redaction_hides_users`: all URLs with a scheme.
-/
import Mathlib.Data.List.Forall2
import Mathlib.Data.Option.Defs
import ExitBridge.Proofs.Text.Parts
import ExitBridge.Settings.Basic

namespace ExitBridge

open Text

variable {scheme user user' rest : List Char}

/-! ## URLs -/

/-- What ends a scheme. -/
def schemeMark : List Char := [':', '/', '/']

theorem splitOnce?_scheme (absent : ¬ schemeMark <:+: scheme) :
    splitOnce? [':', '/', '/'] (scheme ++ (schemeMark ++ rest)) = some (scheme, rest) :=
  splitOnce?_append rest (by decide) absent

/-- Nothing before an at-sign stands behind the last one. -/
theorem behindLastAt_append : behindLastAt (user ++ '@' :: rest) = behindLastAt rest := by
  have turned : (user ++ '@' :: rest).reverse = rest.reverse ++ '@' :: user.reverse := by simp
  have stop : ('@' :: user.reverse).takeWhile (· ≠ '@') = [] :=
    List.takeWhile_cons_of_neg (by decide)
  rw [behindLastAt, turned, List.takeWhile_append, stop, List.append_nil, behindLastAt]
  split
  · rename_i whole
    rw [(List.takeWhile_prefix _).eq_of_length whole]
  · rfl

/-- What is shown of a URL with a user. -/
theorem redactChars_user (absent : ¬ schemeMark <:+: scheme) (slash : '/' ∉ user) :
    redactChars (scheme ++ (schemeMark ++ (user ++ '@' :: rest))) =
      scheme ++ "://<redacted>@".toList ++ behindLastAt (rest.takeWhile (· ≠ '/')) ++
        rest.dropWhile (· ≠ '/') := by
  have inside : ∀ c ∈ user, decide (c ≠ '/') = true := fun c mem =>
    decide_eq_true fun same => slash (same ▸ mem)
  have host : (user ++ '@' :: rest).takeWhile (· ≠ '/') =
      user ++ '@' :: rest.takeWhile (· ≠ '/') := by
    rw [List.takeWhile_append_of_pos inside, List.takeWhile_cons_of_pos (by decide)]
  have path : (user ++ '@' :: rest).dropWhile (· ≠ '/') = rest.dropWhile (· ≠ '/') := by
    rw [List.dropWhile_append_of_pos inside, List.dropWhile_cons_of_pos (by decide)]
  have user : '@' ∈ user ++ '@' :: rest.takeWhile (· ≠ '/') :=
    List.mem_append_right _ List.mem_cons_self
  rw [redactChars, splitOnce?_scheme absent]
  simp only [host, path, if_pos user, behindLastAt_append]

theorem redactChars_of_no_user (absent : ¬ schemeMark <:+: scheme)
    (noUser : '@' ∉ rest.takeWhile (· ≠ '/')) :
    redactChars (scheme ++ (schemeMark ++ rest)) = scheme ++ (schemeMark ++ rest) := by
  rw [redactChars, splitOnce?_scheme absent]
  exact if_neg noUser

/-- URLs that are the same, but for the user and password in them. -/
inductive AlikeUrls : String → String → Prop
  | same (url : String) : AlikeUrls url url
  | user {scheme user user' : String} (rest : String) : ¬ schemeMark <:+: scheme.toList →
      '/' ∉ user.toList → '/' ∉ user'.toList →
      AlikeUrls (scheme ++ "://" ++ user ++ "@" ++ rest) (scheme ++ "://" ++ user' ++ "@" ++ rest)

theorem redactUrl_of_alike {url url' : String} (h : AlikeUrls url url') :
    redactUrl url = redactUrl url' := by
  cases h with
  | same => rfl
  | @user scheme user user' rest absent slash slash' =>
    have shown : ∀ {u : String}, '/' ∉ u.toList →
        redactChars (scheme ++ "://" ++ u ++ "@" ++ rest).toList =
          scheme.toList ++ "://<redacted>@".toList ++
            behindLastAt (rest.toList.takeWhile (· ≠ '/')) ++ rest.toList.dropWhile (· ≠ '/') := by
      intro u slash
      rw [← redactChars_user absent slash]
      simp [schemeMark]
    rw [redactUrl, redactUrl, shown slash, shown slash']

/-! ## Settings -/

/-- Peers that are the same, but for the users of their URLs. -/
structure AlikePeers (p p' : RollupPeer) : Prop where
  index : p.rollupIndex = p'.rollupIndex
  url : AlikeUrls p.url p'.url

theorem RollupPeer.describe_of_alike {p p' : RollupPeer} (h : AlikePeers p p') :
    p.describe = p'.describe := by
  rw [describe, describe, h.index, redactUrl_of_alike h.url]

/-- Settings look the same with another token, and with other users in their URLs. -/
theorem Settings.describe_of_alike (s : Settings) {token peer : Option String}
    {rollups : List RollupPeer} (sameToken : token.isSome = s.adminToken.isSome)
    (samePeer : Option.Rel AlikeUrls peer s.peerUrl)
    (sameRollups : List.Forall₂ AlikePeers rollups s.rollupPeers) :
    describe { s with adminToken := token, peerUrl := peer, rollupPeers := rollups } =
      s.describe := by
  have tokens : describedOption (fun _ => quoted "<redacted>") token =
      describedOption (fun _ => quoted "<redacted>") s.adminToken := by
    cases token <;> cases h : s.adminToken <;> simp_all [describedOption]
  have peers : describedOption (fun url => quoted (redactUrl url)) peer =
      describedOption (fun url => quoted (redactUrl url)) s.peerUrl := by
    generalize s.peerUrl = peer' at samePeer
    cases samePeer with
    | some alike => rw [describedOption, describedOption, redactUrl_of_alike alike]
    | none => rfl
  have lists : rollups.map RollupPeer.describe = s.rollupPeers.map RollupPeer.describe := by
    rw [← List.forall₂_eq_eq_eq, List.forall₂_map_left_iff, List.forall₂_map_right_iff]
    exact sameRollups.imp fun _ _ => RollupPeer.describe_of_alike
  simp only [describe, tokens, peers, describedList, lists]

/-! ## All URLs with a scheme -/

/-- **Redaction.** Whatever the user of a URL with a scheme, what is shown is the same, and a URL
    without one is shown as it is. -/
theorem redaction_hides_users :
    (∀ scheme user user' rest : String, ¬ schemeMark <:+: scheme.toList →
      '/' ∉ user.toList → '/' ∉ user'.toList →
      redactUrl (scheme ++ "://" ++ user ++ "@" ++ rest) =
        redactUrl (scheme ++ "://" ++ user' ++ "@" ++ rest)) ∧
    ∀ scheme rest : String, ¬ schemeMark <:+: scheme.toList →
      '@' ∉ rest.toList.takeWhile (· ≠ '/') →
      redactUrl (scheme ++ "://" ++ rest) = scheme ++ "://" ++ rest := by
  constructor
  · exact fun scheme user user' rest absent slash slash' =>
      redactUrl_of_alike (.user rest absent slash slash')
  · intro scheme rest absent noUser
    have chars : (scheme ++ "://" ++ rest).toList =
        scheme.toList ++ (schemeMark ++ rest.toList) := by
      simp [schemeMark]
    rw [redactUrl, chars, redactChars_of_no_user absent noUser, ← chars, String.ofList_toList]

/-- Users that hold at-signs and what else ends a part of a URL, and an at-sign in a path. -/
theorem redaction_hides_users_odd :
    redactUrl "http://a:b@c?d@host/x@y" = redactUrl "http://e#:@f@host/x@y" ∧
      redactUrl "http://host/x@y" = "http://host/x@y" := by
  have hidden := redaction_hides_users.1 "http" "a:b@c?d" "e#:@f" "host/x@y" (by decide) (by decide)
    (by decide)
  have shown := redaction_hides_users.2 "http" "host/x@y" (by decide) (by decide)
  exact ⟨hidden, shown⟩

end ExitBridge
