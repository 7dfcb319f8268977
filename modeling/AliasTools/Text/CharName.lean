import AliasTools.Text.Casing

/-!
# Characters by name

A character can be written by its name, and in marked-up text by a name or number such as `&amp;` and
`&#233;`.  The tables have the names in common use.
-/

namespace AliasTools.Text

/-! ## 1. Names -/

/-- The names of letters of a script, from their capitals on; 32 numbers behind are the small ones. -/
def letterNames : List (String × String) :=
  [("LATIN", "A=41;B;C;D;E;F;G;H;I;J;K;L;M;N;O;P;Q;R;S;T;U;V;W;X;Y;Z;A WITH GRAVE=c0;A WITH ACUTE;A WITH CIRCUMFLEX;
    A WITH TILDE;A WITH DIAERESIS;A WITH RING ABOVE;AE;C WITH CEDILLA;E WITH GRAVE;E WITH ACUTE;E WITH CIRCUMFLEX;
    E WITH DIAERESIS;I WITH GRAVE;I WITH ACUTE;I WITH CIRCUMFLEX;I WITH DIAERESIS;ETH;N WITH TILDE;O WITH GRAVE;
    O WITH ACUTE;O WITH CIRCUMFLEX;O WITH TILDE;O WITH DIAERESIS;O WITH STROKE=d8;U WITH GRAVE;U WITH ACUTE;
    U WITH CIRCUMFLEX;U WITH DIAERESIS;Y WITH ACUTE;THORN"),
   ("GREEK", "ALPHA=391;BETA;GAMMA;DELTA;EPSILON;ZETA;ETA;THETA;IOTA;KAPPA;LAMDA;MU;NU;XI;OMICRON;PI;RHO;SIGMA=3a3;TAU;
    UPSILON;PHI;CHI;PSI;OMEGA"),
   ("CYRILLIC", "A=410;BE;VE;GHE;DE;IE;ZHE;ZE;I;SHORT I;KA;EL;EM;EN;O;PE;ER;ES;TE;U;EF;HA;TSE;CHE;SHA;SHCHA;HARD SIGN;
    YERU;SOFT SIGN;E;YU;YA")]

def symbolNames : String :=
  "SPACE=20;EXCLAMATION MARK;QUOTATION MARK;NUMBER SIGN;DOLLAR SIGN;PERCENT SIGN;AMPERSAND;APOSTROPHE;
  LEFT PARENTHESIS;RIGHT PARENTHESIS;ASTERISK;PLUS SIGN;COMMA;HYPHEN-MINUS;FULL STOP;SOLIDUS;DIGIT ZERO;DIGIT ONE;
  DIGIT TWO;DIGIT THREE;DIGIT FOUR;DIGIT FIVE;DIGIT SIX;DIGIT SEVEN;DIGIT EIGHT;DIGIT NINE;COLON;SEMICOLON;
  LESS-THAN SIGN;EQUALS SIGN;GREATER-THAN SIGN;QUESTION MARK;COMMERCIAL AT;LEFT SQUARE BRACKET=5b;REVERSE SOLIDUS;
  RIGHT SQUARE BRACKET;CIRCUMFLEX ACCENT;LOW LINE;GRAVE ACCENT;LEFT CURLY BRACKET=7b;VERTICAL LINE;
  RIGHT CURLY BRACKET;TILDE;NO-BREAK SPACE=a0;INVERTED EXCLAMATION MARK;CENT SIGN;POUND SIGN;CURRENCY SIGN;YEN SIGN;
  BROKEN BAR;SECTION SIGN;DIAERESIS;COPYRIGHT SIGN;FEMININE ORDINAL INDICATOR;
  LEFT-POINTING DOUBLE ANGLE QUOTATION MARK;NOT SIGN;SOFT HYPHEN;REGISTERED SIGN;MACRON;DEGREE SIGN;PLUS-MINUS SIGN;
  SUPERSCRIPT TWO;SUPERSCRIPT THREE;ACUTE ACCENT;MICRO SIGN;PILCROW SIGN;MIDDLE DOT;CEDILLA;SUPERSCRIPT ONE;
  MASCULINE ORDINAL INDICATOR;RIGHT-POINTING DOUBLE ANGLE QUOTATION MARK;VULGAR FRACTION ONE QUARTER;
  VULGAR FRACTION ONE HALF;VULGAR FRACTION THREE QUARTERS;INVERTED QUESTION MARK;MULTIPLICATION SIGN=d7;
  LATIN SMALL LETTER SHARP S=df;DIVISION SIGN=f7;LATIN SMALL LETTER Y WITH DIAERESIS=ff;LATIN CAPITAL LIGATURE OE=152;
  LATIN SMALL LIGATURE OE;GREEK SMALL LETTER FINAL SIGMA=3c2;EN SPACE=2002;EM SPACE;THREE-PER-EM SPACE;
  FOUR-PER-EM SPACE;SIX-PER-EM SPACE;FIGURE SPACE;PUNCTUATION SPACE;THIN SPACE;HAIR SPACE;ZERO WIDTH SPACE;
  ZERO WIDTH NON-JOINER;ZERO WIDTH JOINER;LEFT-TO-RIGHT MARK;RIGHT-TO-LEFT MARK;HYPHEN;NON-BREAKING HYPHEN;
  FIGURE DASH;EN DASH;EM DASH;HORIZONTAL BAR;DOUBLE VERTICAL LINE;DOUBLE LOW LINE;LEFT SINGLE QUOTATION MARK;
  RIGHT SINGLE QUOTATION MARK;SINGLE LOW-9 QUOTATION MARK;SINGLE HIGH-REVERSED-9 QUOTATION MARK;
  LEFT DOUBLE QUOTATION MARK;RIGHT DOUBLE QUOTATION MARK;DOUBLE LOW-9 QUOTATION MARK;
  DOUBLE HIGH-REVERSED-9 QUOTATION MARK;DAGGER;DOUBLE DAGGER;BULLET;TRIANGULAR BULLET;ONE DOT LEADER;TWO DOT LEADER;
  HORIZONTAL ELLIPSIS;HYPHENATION POINT;NARROW NO-BREAK SPACE=202f;PER MILLE SIGN;PER TEN THOUSAND SIGN;PRIME;
  DOUBLE PRIME;TRIPLE PRIME;REVERSED PRIME;REVERSED DOUBLE PRIME;REVERSED TRIPLE PRIME;CARET;
  SINGLE LEFT-POINTING ANGLE QUOTATION MARK;SINGLE RIGHT-POINTING ANGLE QUOTATION MARK;EURO SIGN=20ac;
  TRADE MARK SIGN=2122;LEFTWARDS ARROW=2190;UPWARDS ARROW;RIGHTWARDS ARROW;DOWNWARDS ARROW;LEFT RIGHT ARROW;
  UP DOWN ARROW;NORTH WEST ARROW;NORTH EAST ARROW;SOUTH EAST ARROW;SOUTH WEST ARROW;LEFTWARDS DOUBLE ARROW=21d0;
  UPWARDS DOUBLE ARROW;RIGHTWARDS DOUBLE ARROW;DOWNWARDS DOUBLE ARROW;LEFT RIGHT DOUBLE ARROW;UP DOWN DOUBLE ARROW;
  FOR ALL=2200;COMPLEMENT;PARTIAL DIFFERENTIAL;THERE EXISTS;THERE DOES NOT EXIST;EMPTY SET;INCREMENT;NABLA;ELEMENT OF;
  NOT AN ELEMENT OF;SMALL ELEMENT OF;CONTAINS AS MEMBER;N-ARY PRODUCT=220f;N-ARY COPRODUCT;N-ARY SUMMATION;MINUS SIGN;
  MINUS-OR-PLUS SIGN;DOT PLUS;DIVISION SLASH;SET MINUS;ASTERISK OPERATOR;RING OPERATOR;BULLET OPERATOR;SQUARE ROOT;
  INFINITY=221e;RIGHT ANGLE;ANGLE;LOGICAL AND=2227;LOGICAL OR;INTERSECTION;UNION;INTEGRAL;ALMOST EQUAL TO=2248;
  NOT EQUAL TO=2260;IDENTICAL TO;LESS-THAN OR EQUAL TO=2264;GREATER-THAN OR EQUAL TO;BLACK SQUARE=25a0;WHITE SQUARE;
  BLACK UP-POINTING TRIANGLE=25b2;WHITE UP-POINTING TRIANGLE;BLACK RIGHT-POINTING TRIANGLE=25b6;
  WHITE RIGHT-POINTING TRIANGLE;BLACK DOWN-POINTING TRIANGLE=25bc;WHITE DOWN-POINTING TRIANGLE;
  BLACK LEFT-POINTING TRIANGLE=25c0;WHITE LEFT-POINTING TRIANGLE;BLACK DIAMOND=25c6;WHITE DIAMOND;LOZENGE=25ca;
  WHITE CIRCLE;DOTTED CIRCLE;CIRCLE WITH VERTICAL FILL;BULLSEYE;BLACK CIRCLE;BLACK STAR=2605;WHITE STAR;
  SKULL AND CROSSBONES=2620;BLACK SPADE SUIT=2660;WHITE HEART SUIT;WHITE DIAMOND SUIT;BLACK CLUB SUIT;
  WHITE SPADE SUIT;BLACK HEART SUIT;BLACK DIAMOND SUIT;WHITE CLUB SUIT;DIE FACE-1=2680;DIE FACE-2;DIE FACE-3;
  DIE FACE-4;DIE FACE-5;DIE FACE-6;CROSSED SWORDS=2694;WARNING SIGN=26a0;HIGH VOLTAGE SIGN;CHECK MARK=2713;
  HEAVY CHECK MARK;MULTIPLICATION X;HEAVY MULTIPLICATION X;BALLOT X;HEAVY BALLOT X;SPARKLES=2728;
  HEAVY BLACK HEART=2764;GAME DIE=1f3b2;BOW AND ARROW=1f3f9;DRAGON=1f409;SKULL=1f480;COLLISION SYMBOL=1f4a5;
  FIRE=1f525;DAGGER KNIFE=1f5e1;GRINNING FACE=1f600;GRINNING FACE WITH SMILING EYES;FACE WITH TEARS OF JOY;
  SMILING FACE WITH OPEN MOUTH;SMILING FACE WITH OPEN MOUTH AND SMILING EYES;
  SMILING FACE WITH OPEN MOUTH AND COLD SWEAT;SMILING FACE WITH OPEN MOUTH AND TIGHTLY-CLOSED EYES;SHIELD=1f6e1"

/-- Names and the numbers that they have; a name without a number has the one behind the last, `n`. -/
def numberedFrom (n : Nat) : List (List Char) → List (List Char × Nat)
  | [] => []
  | w :: ws =>
    let name := w.takeWhile (· != '=')
    let number := w.drop (name.length + 1)
    let n := if number.isEmpty then n + 1 else hexValue number
    (name, n) :: numberedFrom n ws

def charNamed? (name : String) : Option Char :=
  let name := name.toList.map fun c => if 'a' ≤ c && c ≤ 'z' then c.toUpper else c
  let named (front names : String) (behind : Nat) : Option Char :=
    if front.toList.isPrefixOf name then
      ((numberedFrom 0 (cutAt ';' (unwrapped names))).lookup (name.drop front.length)).map fun n => Char.ofNat (n + behind)
    else none
  (letterNames.findSome? fun (script, names) =>
    named (script ++ " CAPITAL LETTER ") names 0 <|> named (script ++ " SMALL LETTER ") names 32) <|> named "" symbolNames 0

/-! ## 2. Marks -/

def entityTable : String :=
  "*QUOT=22 *quot=22 *AMP=26 *amp=26 apos *LT=3c *lt=3c *GT=3e *gt=3e *nbsp=a0 *iexcl *cent *pound *curren
  *yen *brvbar *sect *uml *COPY *copy=a9 *ordf *laquo *not *shy *REG *reg=ae *macr *deg *plusmn *sup2 *sup3
  *acute *micro *para *middot *cedil *sup1 *ordm *raquo *frac14 *frac12 *frac34 *iquest *Agrave *Aacute
  *Acirc *Atilde *Auml *Aring *AElig *Ccedil *Egrave *Eacute *Ecirc *Euml *Igrave *Iacute *Icirc *Iuml *ETH
  *Ntilde *Ograve *Oacute *Ocirc *Otilde *Ouml *times *Oslash *Ugrave *Uacute *Ucirc *Uuml *Yacute *THORN
  *szlig *agrave *aacute *acirc *atilde *auml *aring *aelig *ccedil *egrave *eacute *ecirc *euml *igrave
  *iacute *icirc *iuml *eth *ntilde *ograve *oacute *ocirc *otilde *ouml *divide *oslash *ugrave *uacute
  *ucirc *uuml *yacute *thorn *yuml OElig=152 oelig Scaron=160 scaron Yuml=178 fnof=192 circ=2c6 tilde=2dc
  Alpha=391 Beta Gamma Delta Epsilon Zeta Eta Theta Iota Kappa Lambda Mu Nu Xi Omicron Pi Rho Sigma=3a3 Tau
  Upsilon Phi Chi Psi Omega alpha=3b1 beta gamma delta epsilon zeta eta theta iota kappa lambda mu nu xi
  omicron pi rho sigmaf sigma tau upsilon phi chi psi omega thetasym=3d1 upsih piv=3d6 ensp=2002 emsp
  thinsp=2009 zwnj=200c zwj lrm rlm ndash=2013 mdash lsquo=2018 rsquo sbquo ldquo=201c rdquo bdquo
  dagger=2020 Dagger bull hellip=2026 permil=2030 prime=2032 Prime lsaquo=2039 rsaquo oline=203e frasl=2044
  euro=20ac image=2111 weierp=2118 real=211c trade=2122 alefsym=2135 larr=2190 uarr rarr darr harr
  crarr=21b5 lArr=21d0 uArr rArr dArr hArr forall=2200 part=2202 exist empty=2205 nabla=2207 isin notin
  ni=220b prod=220f sum=2211 minus lowast=2217 radic=221a prop=221d infin ang=2220 and=2227 or cap cup int
  there4=2234 sim=223c cong=2245 asymp=2248 ne=2260 equiv le=2264 ge sub=2282 sup nsub sube=2286 supe
  oplus=2295 otimes=2297 perp=22a5 sdot=22c5 lceil=2308 rceil lfloor rfloor loz=25ca spades=2660 clubs=2663
  hearts=2665 diams lang=27e8 rang"

structure Entity where
  name : List Char
  bare : Bool
  char : Char

def entities : List Entity := (numberedFrom 0 (tableWords entityTable)).map fun (w, n) =>
  let bare := w.head? == some '*'
  ⟨if bare then w.drop 1 else w, bare, Char.ofNat n⟩

def entityText? (name : List Char) : Option (List Char) :=
  let closed := name.getLast? == some ';'
  let plain := if closed then name.dropLast else name
  (entities.find? fun e => e.name == plain && (closed || e.bare)).map ([·.char])

/-- What the numbers from 128 on stand for, where they are no characters of their own. -/
def oldNumbers : List Nat := (tableWords
  "20ac 81 201a 192 201e 2026 2020 2021 2c6 2030 160 2039 152 8d 17d 8f 90 2018 2019 201c 201d 2022 2013 2014 2dc
  2122 161 203a 153 9d 17e 178").map hexValue

def isNoCharacter (n : Nat) : Bool :=
  (1 ≤ n && n ≤ 8) || n == 11 || (14 ≤ n && n ≤ 31) || n == 127 ||
    (0xfdd0 ≤ n && n ≤ 0xfdef) || (n % 0x10000 ≥ 0xfffe && n ≤ 0x10ffff)

def numberedText (n : Nat) : List Char :=
  if n == 0 || (0xd800 ≤ n && n ≤ 0xdfff) || n > 0x10ffff then ['\ufffd']
  else if 128 ≤ n && n < 160 then [Char.ofNat (oldNumbers.getD (n - 128) n)]
  else if isNoCharacter n then []
  else [Char.ofNat n]

def longestEntity (name : List Char) : Nat → Option (List Char)
  | 0 | 1 => none
  | k + 2 =>
    match entityText? (name.take (k + 2)) with
    | some t => some (t ++ name.drop (k + 2))
    | none => longestEntity name (k + 1)

def isEntityChar (c : Char) : Bool := !"\t\n\x0c <&#;".toList.contains c

def reference? (s : List Char) : Option (List Char × Nat) :=
  let closing (rest : List Char) : Nat := if rest.head? == some ';' then 1 else 0
  let numbered (skip : Nat) (digits : List Char) (base : Nat) : Option (List Char × Nat) :=
    if digits.isEmpty then none
    else
      let n := digits.foldl (fun n c => base * n + hexDigit c) 0
      let used := skip + digits.length
      some (numberedText n, used + closing (s.drop used))
  match s with
  | '#' :: 'x' :: rest | '#' :: 'X' :: rest => numbered 2 (rest.takeWhile isHexDigit) 16
  | '#' :: rest => numbered 1 (rest.takeWhile fun c => '0' ≤ c && c ≤ '9') 10
  | _ =>
    let name := (s.takeWhile isEntityChar).take 32
    if name.isEmpty then none
    else
      let name := name ++ (s.drop name.length).take (closing (s.drop name.length))
      let text := match entityText? name with
        | some t => t
        | none => (longestEntity name (name.length - 1)).getD ('&' :: name)
      some (text, name.length)

/-- A text with its references replaced; `skip` counts characters of a reference to be passed. -/
def unescapeFrom (skip : Nat) (acc : List Char) : List Char → List Char
  | [] => acc.reverse
  | c :: rest =>
    match skip with
    | k + 1 => unescapeFrom k acc rest
    | 0 =>
      match if c == '&' then reference? rest else none with
      | some (t, n) => unescapeFrom n (t.reverse ++ acc) rest
      | none => unescapeFrom 0 (c :: acc) rest

def unescape (s : List Char) : List Char := unescapeFrom 0 [] s

end AliasTools.Text
