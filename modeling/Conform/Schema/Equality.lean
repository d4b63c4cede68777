import Conform.Schema.Basic

/-!
# Equality of schemas

Two schemas are the same when they have the same nodes in the same order, with keywords and literals
compared as values.
-/

namespace Conform

def KindRef.same (a b : KindRef) : Bool :=
  match a, b with
  | .known k, .known l => k = l
  | .given v, .given w => v.same w
  | .known k, .given v => v.same (.str k.name)
  | .given v, .known k => v.same (.str k.name)

def Refinements.same (r s : Refinements) : Bool :=
  r.minLength.same s.minLength && r.maxLength.same s.maxLength && r.pattern.same s.pattern &&
    r.format.same s.format && r.minimum.same s.minimum && r.maximum.same s.maximum

mutual

def Schema.same : Schema → Schema → Bool
  | .primitive k r, b => match b with
    | .primitive l s => k.same l && r.same s
    | _ => false
  | .literal v, b => match b with
    | .literal w => v.same w
    | _ => false
  | .list a v w, b => match b with
    | .list b x y => a.same b && v.same x && w.same y
    | _ => false
  | .field a v, b => match b with
    | .field b w => a.same b && v.same w
    | _ => false
  | .object es v, b => match b with
    | .object fs w => sameEntries es fs && v.same w
    | _ => false
  | .union xs, b => match b with
    | .union ys => sameAll xs ys
    | _ => false
  | .other v, b => match b with
    | .other w => v.same w
    | _ => false
termination_by structural x => x

def Entry.same : Entry → Entry → Bool
  | .named n a, f => match f with
    | .named m b => n.same m && a.same b
    | _ => false
  | .other v, f => match f with
    | .other w => v.same w
    | _ => false
termination_by structural x => x

def sameEntries : List Entry → List Entry → Bool
  | [], [] => true
  | e :: es, f :: fs => e.same f && sameEntries es fs
  | _, _ => false
termination_by structural x => x

def sameAll : List Schema → List Schema → Bool
  | [], [] => true
  | a :: as, b :: bs => a.same b && sameAll as bs
  | _, _ => false
termination_by structural x => x

end

end Conform
