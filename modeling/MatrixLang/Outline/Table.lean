import MatrixLang.Grammar.Table

/-!
# The parse table of version 3

The LALR(1) table of the version 3 grammar (`Outline.grammar`), with its conflicts settled by the
grammar's precedence levels, as the parser generator builds it. States are numbered in the order
the generator finds them, from the start state `0`; a reduction names its production by the
numbering of `Grammar.numbered`. Each state has one row of actions, by terminal, and one row of
moves, by nonterminal.
-/
namespace MatrixLang.Outline

/-- The parse table of version 3. -/
def table : Grammar.Table where
  actions := #[
    /- 0 -/ [("$end", .reduce 2), ("BREAK", .shift 15), ("CONTINUE", .shift 14), ("FOR", .shift 5), ("ID", .shift 18), ("IF", .shift 8), ("PRINT", .shift 12), ("RETURN", .shift 13), ("WHILE", .shift 7), ("\x7b", .shift 9)],
    /- 1 -/ [("$end", .accept)],
    /- 2 -/ [("$end", .reduce 1)],
    /- 3 -/ [("$end", .reduce 3)],
    /- 4 -/ [("$end", .reduce 5), ("BREAK", .shift 15), ("CONTINUE", .shift 14), ("FOR", .shift 5), ("ID", .shift 18), ("IF", .shift 8), ("PRINT", .shift 12), ("RETURN", .shift 13), ("WHILE", .shift 7), ("\x7b", .shift 9), ("\x7d", .reduce 5)],
    /- 5 -/ [("ID", .shift 21)],
    /- 6 -/ [("=", .shift 23), ("ADDASSIGN", .shift 24), ("DIVASSIGN", .shift 26), ("MULASSIGN", .shift 27), ("SUBASSIGN", .shift 25)],
    /- 7 -/ [("(", .shift 28)],
    /- 8 -/ [("(", .shift 29)],
    /- 9 -/ [("BREAK", .shift 15), ("CONTINUE", .shift 14), ("FOR", .shift 5), ("ID", .shift 18), ("IF", .shift 8), ("PRINT", .shift 12), ("RETURN", .shift 13), ("WHILE", .shift 7), ("\x7b", .shift 9)],
    /- 10 -/ [(";", .shift 31)],
    /- 11 -/ [(";", .shift 32)],
    /- 12 -/ [("-", .shift 44), ("EYE", .shift 53), ("FLOATNUM", .shift 54), ("ID", .shift 18), ("INTNUM", .shift 47), ("ONES", .shift 52), ("STRING", .shift 45), ("ZEROS", .shift 51), ("[", .shift 46)],
    /- 13 -/ [("-", .shift 44), ("EYE", .shift 53), ("FLOATNUM", .shift 54), ("ID", .shift 18), ("INTNUM", .shift 47), ("ONES", .shift 52), ("ZEROS", .shift 51), ("[", .shift 46)],
    /- 14 -/ [(";", .reduce 70)],
    /- 15 -/ [(";", .reduce 71)],
    /- 16 -/ [("=", .shift 23), ("ADDASSIGN", .shift 24), ("DIVASSIGN", .shift 26), ("MULASSIGN", .shift 27), ("SUBASSIGN", .shift 25)],
    /- 17 -/ [("=", .shift 23), ("ADDASSIGN", .shift 24), ("DIVASSIGN", .shift 26), ("MULASSIGN", .shift 27), ("SUBASSIGN", .shift 25)],
    /- 18 -/ [("'", .reduce 45), (")", .reduce 45), ("*", .reduce 45), ("+", .reduce 45), (",", .reduce 45), ("-", .reduce 45), ("/", .reduce 45), (":", .reduce 45), (";", .reduce 45), ("<", .reduce 45), ("=", .reduce 45), (">", .reduce 45), ("ADDASSIGN", .reduce 45), ("BREAK", .reduce 45), ("CONTINUE", .reduce 45), ("DIVASSIGN", .reduce 45), ("DOTADD", .reduce 45), ("DOTDIV", .reduce 45), ("DOTMUL", .reduce 45), ("DOTSUB", .reduce 45), ("EQ", .reduce 45), ("FOR", .reduce 45), ("GE", .reduce 45), ("ID", .reduce 45), ("IF", .reduce 45), ("LE", .reduce 45), ("MULASSIGN", .reduce 45), ("NE", .reduce 45), ("PRINT", .reduce 45), ("RETURN", .reduce 45), ("SUBASSIGN", .reduce 45), ("WHILE", .reduce 45), ("[", .shift 58), ("\x7b", .reduce 45)],
    /- 19 -/ [("$end", .reduce 4), ("\x7d", .reduce 4)],
    /- 20 -/ [("=", .shift 59)],
    /- 21 -/ [("=", .reduce 45)],
    /- 22 -/ [("-", .shift 44), ("EYE", .shift 53), ("FLOATNUM", .shift 54), ("ID", .shift 18), ("INTNUM", .shift 47), ("ONES", .shift 52), ("ZEROS", .shift 51), ("[", .shift 46)],
    /- 23 -/ [("-", .reduce 20), ("EYE", .reduce 20), ("FLOATNUM", .reduce 20), ("ID", .reduce 20), ("INTNUM", .reduce 20), ("ONES", .reduce 20), ("ZEROS", .reduce 20), ("[", .reduce 20)],
    /- 24 -/ [("-", .reduce 21), ("EYE", .reduce 21), ("FLOATNUM", .reduce 21), ("ID", .reduce 21), ("INTNUM", .reduce 21), ("ONES", .reduce 21), ("ZEROS", .reduce 21), ("[", .reduce 21)],
    /- 25 -/ [("-", .reduce 22), ("EYE", .reduce 22), ("FLOATNUM", .reduce 22), ("ID", .reduce 22), ("INTNUM", .reduce 22), ("ONES", .reduce 22), ("ZEROS", .reduce 22), ("[", .reduce 22)],
    /- 26 -/ [("-", .reduce 23), ("EYE", .reduce 23), ("FLOATNUM", .reduce 23), ("ID", .reduce 23), ("INTNUM", .reduce 23), ("ONES", .reduce 23), ("ZEROS", .reduce 23), ("[", .reduce 23)],
    /- 27 -/ [("-", .reduce 24), ("EYE", .reduce 24), ("FLOATNUM", .reduce 24), ("ID", .reduce 24), ("INTNUM", .reduce 24), ("ONES", .reduce 24), ("ZEROS", .reduce 24), ("[", .reduce 24)],
    /- 28 -/ [("-", .shift 44), ("EYE", .shift 53), ("FLOATNUM", .shift 54), ("ID", .shift 18), ("INTNUM", .shift 47), ("ONES", .shift 52), ("ZEROS", .shift 51), ("[", .shift 46)],
    /- 29 -/ [("-", .shift 44), ("EYE", .shift 53), ("FLOATNUM", .shift 54), ("ID", .shift 18), ("INTNUM", .shift 47), ("ONES", .shift 52), ("ZEROS", .shift 51), ("[", .shift 46)],
    /- 30 -/ [("\x7d", .shift 64)],
    /- 31 -/ [("$end", .reduce 11), ("BREAK", .reduce 11), ("CONTINUE", .reduce 11), ("ELSE", .reduce 11), ("FOR", .reduce 11), ("ID", .reduce 11), ("IF", .reduce 11), ("PRINT", .reduce 11), ("RETURN", .reduce 11), ("WHILE", .reduce 11), ("\x7b", .reduce 11), ("\x7d", .reduce 11)],
    /- 32 -/ [("$end", .reduce 12), ("BREAK", .reduce 12), ("CONTINUE", .reduce 12), ("ELSE", .reduce 12), ("FOR", .reduce 12), ("ID", .reduce 12), ("IF", .reduce 12), ("PRINT", .reduce 12), ("RETURN", .reduce 12), ("WHILE", .reduce 12), ("\x7b", .reduce 12), ("\x7d", .reduce 12)],
    /- 33 -/ [(",", .shift 65), (";", .reduce 68)],
    /- 34 -/ [(",", .reduce 72), (";", .reduce 72)],
    /- 35 -/ [("'", .shift 74), ("*", .shift 71), ("+", .shift 73), (",", .reduce 74), ("-", .shift 72), ("/", .shift 70), (";", .reduce 74), ("DOTADD", .shift 69), ("DOTDIV", .shift 66), ("DOTMUL", .shift 67), ("DOTSUB", .shift 68)],
    /- 36 -/ [(",", .reduce 75), (";", .reduce 75)],
    /- 37 -/ [("'", .reduce 49), (")", .reduce 49), ("*", .reduce 49), ("+", .reduce 49), (",", .reduce 49), ("-", .reduce 49), ("/", .reduce 49), (":", .reduce 49), (";", .reduce 49), ("<", .reduce 49), (">", .reduce 49), ("BREAK", .reduce 49), ("CONTINUE", .reduce 49), ("DOTADD", .reduce 49), ("DOTDIV", .reduce 49), ("DOTMUL", .reduce 49), ("DOTSUB", .reduce 49), ("EQ", .reduce 49), ("FOR", .reduce 49), ("GE", .reduce 49), ("ID", .reduce 49), ("IF", .reduce 49), ("LE", .reduce 49), ("NE", .reduce 49), ("PRINT", .reduce 49), ("RETURN", .reduce 49), ("WHILE", .reduce 49), ("\x7b", .reduce 49)],
    /- 38 -/ [("'", .reduce 50), (")", .reduce 50), ("*", .reduce 50), ("+", .reduce 50), (",", .reduce 50), ("-", .reduce 50), ("/", .reduce 50), (":", .reduce 50), (";", .reduce 50), ("<", .reduce 50), (">", .reduce 50), ("BREAK", .reduce 50), ("CONTINUE", .reduce 50), ("DOTADD", .reduce 50), ("DOTDIV", .reduce 50), ("DOTMUL", .reduce 50), ("DOTSUB", .reduce 50), ("EQ", .reduce 50), ("FOR", .reduce 50), ("GE", .reduce 50), ("ID", .reduce 50), ("IF", .reduce 50), ("LE", .reduce 50), ("NE", .reduce 50), ("PRINT", .reduce 50), ("RETURN", .reduce 50), ("WHILE", .reduce 50), ("\x7b", .reduce 50)],
    /- 39 -/ [("'", .reduce 51), (")", .reduce 51), ("*", .reduce 51), ("+", .reduce 51), (",", .reduce 51), ("-", .reduce 51), ("/", .reduce 51), (":", .reduce 51), (";", .reduce 51), ("<", .reduce 51), (">", .reduce 51), ("BREAK", .reduce 51), ("CONTINUE", .reduce 51), ("DOTADD", .reduce 51), ("DOTDIV", .reduce 51), ("DOTMUL", .reduce 51), ("DOTSUB", .reduce 51), ("EQ", .reduce 51), ("FOR", .reduce 51), ("GE", .reduce 51), ("ID", .reduce 51), ("IF", .reduce 51), ("LE", .reduce 51), ("NE", .reduce 51), ("PRINT", .reduce 51), ("RETURN", .reduce 51), ("WHILE", .reduce 51), ("\x7b", .reduce 51)],
    /- 40 -/ [("'", .reduce 52), (")", .reduce 52), ("*", .reduce 52), ("+", .reduce 52), (",", .reduce 52), ("-", .reduce 52), ("/", .reduce 52), (":", .reduce 52), (";", .reduce 52), ("<", .reduce 52), (">", .reduce 52), ("BREAK", .reduce 52), ("CONTINUE", .reduce 52), ("DOTADD", .reduce 52), ("DOTDIV", .reduce 52), ("DOTMUL", .reduce 52), ("DOTSUB", .reduce 52), ("EQ", .reduce 52), ("FOR", .reduce 52), ("GE", .reduce 52), ("ID", .reduce 52), ("IF", .reduce 52), ("LE", .reduce 52), ("NE", .reduce 52), ("PRINT", .reduce 52), ("RETURN", .reduce 52), ("WHILE", .reduce 52), ("\x7b", .reduce 52)],
    /- 41 -/ [("'", .reduce 53), (")", .reduce 53), ("*", .reduce 53), ("+", .reduce 53), (",", .reduce 53), ("-", .reduce 53), ("/", .reduce 53), (":", .reduce 53), (";", .reduce 53), ("<", .reduce 53), (">", .reduce 53), ("BREAK", .reduce 53), ("CONTINUE", .reduce 53), ("DOTADD", .reduce 53), ("DOTDIV", .reduce 53), ("DOTMUL", .reduce 53), ("DOTSUB", .reduce 53), ("EQ", .reduce 53), ("FOR", .reduce 53), ("GE", .reduce 53), ("ID", .reduce 53), ("IF", .reduce 53), ("LE", .reduce 53), ("NE", .reduce 53), ("PRINT", .reduce 53), ("RETURN", .reduce 53), ("WHILE", .reduce 53), ("\x7b", .reduce 53)],
    /- 42 -/ [("'", .reduce 54), (")", .reduce 54), ("*", .reduce 54), ("+", .reduce 54), (",", .reduce 54), ("-", .reduce 54), ("/", .reduce 54), (":", .reduce 54), (";", .reduce 54), ("<", .reduce 54), (">", .reduce 54), ("BREAK", .reduce 54), ("CONTINUE", .reduce 54), ("DOTADD", .reduce 54), ("DOTDIV", .reduce 54), ("DOTMUL", .reduce 54), ("DOTSUB", .reduce 54), ("EQ", .reduce 54), ("FOR", .reduce 54), ("GE", .reduce 54), ("ID", .reduce 54), ("IF", .reduce 54), ("LE", .reduce 54), ("NE", .reduce 54), ("PRINT", .reduce 54), ("RETURN", .reduce 54), ("WHILE", .reduce 54), ("\x7b", .reduce 54)],
    /- 43 -/ [("'", .reduce 55), (")", .reduce 55), ("*", .reduce 55), ("+", .reduce 55), (",", .reduce 55), ("-", .reduce 55), ("/", .reduce 55), (":", .reduce 55), (";", .reduce 55), ("<", .reduce 55), (">", .reduce 55), ("BREAK", .reduce 55), ("CONTINUE", .reduce 55), ("DOTADD", .reduce 55), ("DOTDIV", .reduce 55), ("DOTMUL", .reduce 55), ("DOTSUB", .reduce 55), ("EQ", .reduce 55), ("FOR", .reduce 55), ("GE", .reduce 55), ("ID", .reduce 55), ("IF", .reduce 55), ("LE", .reduce 55), ("NE", .reduce 55), ("PRINT", .reduce 55), ("RETURN", .reduce 55), ("WHILE", .reduce 55), ("\x7b", .reduce 55)],
    /- 44 -/ [("-", .shift 44), ("EYE", .shift 53), ("FLOATNUM", .shift 54), ("ID", .shift 18), ("INTNUM", .shift 47), ("ONES", .shift 52), ("ZEROS", .shift 51), ("[", .shift 46)],
    /- 45 -/ [(",", .reduce 48), (";", .reduce 48)],
    /- 46 -/ [("[", .shift 76)],
    /- 47 -/ [("'", .reduce 47), (")", .reduce 47), ("*", .reduce 47), ("+", .reduce 47), (",", .reduce 47), ("-", .reduce 47), ("/", .reduce 47), (":", .reduce 47), (";", .reduce 47), ("<", .reduce 47), (">", .reduce 47), ("BREAK", .reduce 47), ("CONTINUE", .reduce 47), ("DOTADD", .reduce 47), ("DOTDIV", .reduce 47), ("DOTMUL", .reduce 47), ("DOTSUB", .reduce 47), ("EQ", .reduce 47), ("FOR", .reduce 47), ("GE", .reduce 47), ("ID", .reduce 47), ("IF", .reduce 47), ("LE", .reduce 47), ("NE", .reduce 47), ("PRINT", .reduce 47), ("RETURN", .reduce 47), ("WHILE", .reduce 47), ("]", .reduce 47), ("\x7b", .reduce 47)],
    /- 48 -/ [("(", .shift 79)],
    /- 49 -/ [("'", .reduce 64), (")", .reduce 64), ("*", .reduce 64), ("+", .reduce 64), (",", .reduce 64), ("-", .reduce 64), ("/", .reduce 64), (":", .reduce 64), (";", .reduce 64), ("<", .reduce 64), (">", .reduce 64), ("BREAK", .reduce 64), ("CONTINUE", .reduce 64), ("DOTADD", .reduce 64), ("DOTDIV", .reduce 64), ("DOTMUL", .reduce 64), ("DOTSUB", .reduce 64), ("EQ", .reduce 64), ("FOR", .reduce 64), ("GE", .reduce 64), ("ID", .reduce 64), ("IF", .reduce 64), ("LE", .reduce 64), ("NE", .reduce 64), ("PRINT", .reduce 64), ("RETURN", .reduce 64), ("WHILE", .reduce 64), ("\x7b", .reduce 64)],
    /- 50 -/ [("'", .reduce 65), (")", .reduce 65), ("*", .reduce 65), ("+", .reduce 65), (",", .reduce 65), ("-", .reduce 65), ("/", .reduce 65), (":", .reduce 65), (";", .reduce 65), ("<", .reduce 65), (">", .reduce 65), ("BREAK", .reduce 65), ("CONTINUE", .reduce 65), ("DOTADD", .reduce 65), ("DOTDIV", .reduce 65), ("DOTMUL", .reduce 65), ("DOTSUB", .reduce 65), ("EQ", .reduce 65), ("FOR", .reduce 65), ("GE", .reduce 65), ("ID", .reduce 65), ("IF", .reduce 65), ("LE", .reduce 65), ("NE", .reduce 65), ("PRINT", .reduce 65), ("RETURN", .reduce 65), ("WHILE", .reduce 65), ("\x7b", .reduce 65)],
    /- 51 -/ [("(", .reduce 29)],
    /- 52 -/ [("(", .reduce 30)],
    /- 53 -/ [("(", .reduce 31)],
    /- 54 -/ [("'", .reduce 46), (")", .reduce 46), ("*", .reduce 46), ("+", .reduce 46), (",", .reduce 46), ("-", .reduce 46), ("/", .reduce 46), (":", .reduce 46), (";", .reduce 46), ("<", .reduce 46), (">", .reduce 46), ("BREAK", .reduce 46), ("CONTINUE", .reduce 46), ("DOTADD", .reduce 46), ("DOTDIV", .reduce 46), ("DOTMUL", .reduce 46), ("DOTSUB", .reduce 46), ("EQ", .reduce 46), ("FOR", .reduce 46), ("GE", .reduce 46), ("ID", .reduce 46), ("IF", .reduce 46), ("LE", .reduce 46), ("NE", .reduce 46), ("PRINT", .reduce 46), ("RETURN", .reduce 46), ("WHILE", .reduce 46), ("]", .reduce 46), ("\x7b", .reduce 46)],
    /- 55 -/ [("'", .shift 74), ("*", .shift 71), ("+", .shift 73), ("-", .shift 72), ("/", .shift 70), (";", .reduce 69), ("DOTADD", .shift 69), ("DOTDIV", .shift 66), ("DOTMUL", .shift 67), ("DOTSUB", .shift 68)],
    /- 56 -/ [("-", .shift 44), ("EYE", .shift 53), ("FLOATNUM", .shift 54), ("ID", .shift 18), ("INTNUM", .shift 47), ("ONES", .shift 52), ("ZEROS", .shift 51), ("[", .shift 46)],
    /- 57 -/ [("-", .shift 44), ("EYE", .shift 53), ("FLOATNUM", .shift 54), ("ID", .shift 18), ("INTNUM", .shift 47), ("ONES", .shift 52), ("ZEROS", .shift 51), ("[", .shift 46)],
    /- 58 -/ [("INTNUM", .shift 82)],
    /- 59 -/ [("-", .shift 44), ("EYE", .shift 53), ("FLOATNUM", .shift 54), ("ID", .shift 18), ("INTNUM", .shift 47), ("ONES", .shift 52), ("ZEROS", .shift 51), ("[", .shift 46)],
    /- 60 -/ [("'", .shift 74), ("*", .shift 71), ("+", .shift 73), ("-", .shift 72), ("/", .shift 70), (";", .reduce 27), ("DOTADD", .shift 69), ("DOTDIV", .shift 66), ("DOTMUL", .shift 67), ("DOTSUB", .shift 68)],
    /- 61 -/ [(")", .shift 85)],
    /- 62 -/ [("'", .shift 74), ("*", .shift 71), ("+", .shift 73), ("-", .shift 72), ("/", .shift 70), ("<", .shift 87), (">", .shift 86), ("DOTADD", .shift 69), ("DOTDIV", .shift 66), ("DOTMUL", .shift 67), ("DOTSUB", .shift 68), ("EQ", .shift 91), ("GE", .shift 88), ("LE", .shift 89), ("NE", .shift 90)],
    /- 63 -/ [(")", .shift 92)],
    /- 64 -/ [("$end", .reduce 10), ("BREAK", .reduce 10), ("CONTINUE", .reduce 10), ("ELSE", .reduce 10), ("FOR", .reduce 10), ("ID", .reduce 10), ("IF", .reduce 10), ("PRINT", .reduce 10), ("RETURN", .reduce 10), ("WHILE", .reduce 10), ("\x7b", .reduce 10), ("\x7d", .reduce 10)],
    /- 65 -/ [("-", .shift 44), ("EYE", .shift 53), ("FLOATNUM", .shift 54), ("ID", .shift 18), ("INTNUM", .shift 47), ("ONES", .shift 52), ("STRING", .shift 45), ("ZEROS", .shift 51), ("[", .shift 46)],
    /- 66 -/ [("-", .shift 44), ("EYE", .shift 53), ("FLOATNUM", .shift 54), ("ID", .shift 18), ("INTNUM", .shift 47), ("ONES", .shift 52), ("ZEROS", .shift 51), ("[", .shift 46)],
    /- 67 -/ [("-", .shift 44), ("EYE", .shift 53), ("FLOATNUM", .shift 54), ("ID", .shift 18), ("INTNUM", .shift 47), ("ONES", .shift 52), ("ZEROS", .shift 51), ("[", .shift 46)],
    /- 68 -/ [("-", .shift 44), ("EYE", .shift 53), ("FLOATNUM", .shift 54), ("ID", .shift 18), ("INTNUM", .shift 47), ("ONES", .shift 52), ("ZEROS", .shift 51), ("[", .shift 46)],
    /- 69 -/ [("-", .shift 44), ("EYE", .shift 53), ("FLOATNUM", .shift 54), ("ID", .shift 18), ("INTNUM", .shift 47), ("ONES", .shift 52), ("ZEROS", .shift 51), ("[", .shift 46)],
    /- 70 -/ [("-", .shift 44), ("EYE", .shift 53), ("FLOATNUM", .shift 54), ("ID", .shift 18), ("INTNUM", .shift 47), ("ONES", .shift 52), ("ZEROS", .shift 51), ("[", .shift 46)],
    /- 71 -/ [("-", .shift 44), ("EYE", .shift 53), ("FLOATNUM", .shift 54), ("ID", .shift 18), ("INTNUM", .shift 47), ("ONES", .shift 52), ("ZEROS", .shift 51), ("[", .shift 46)],
    /- 72 -/ [("-", .shift 44), ("EYE", .shift 53), ("FLOATNUM", .shift 54), ("ID", .shift 18), ("INTNUM", .shift 47), ("ONES", .shift 52), ("ZEROS", .shift 51), ("[", .shift 46)],
    /- 73 -/ [("-", .shift 44), ("EYE", .shift 53), ("FLOATNUM", .shift 54), ("ID", .shift 18), ("INTNUM", .shift 47), ("ONES", .shift 52), ("ZEROS", .shift 51), ("[", .shift 46)],
    /- 74 -/ [("'", .reduce 67), (")", .reduce 67), ("*", .reduce 67), ("+", .reduce 67), (",", .reduce 67), ("-", .reduce 67), ("/", .reduce 67), (":", .reduce 67), (";", .reduce 67), ("<", .reduce 67), (">", .reduce 67), ("BREAK", .reduce 67), ("CONTINUE", .reduce 67), ("DOTADD", .reduce 67), ("DOTDIV", .reduce 67), ("DOTMUL", .reduce 67), ("DOTSUB", .reduce 67), ("EQ", .reduce 67), ("FOR", .reduce 67), ("GE", .reduce 67), ("ID", .reduce 67), ("IF", .reduce 67), ("LE", .reduce 67), ("NE", .reduce 67), ("PRINT", .reduce 67), ("RETURN", .reduce 67), ("WHILE", .reduce 67), ("\x7b", .reduce 67)],
    /- 75 -/ [("'", .shift 74), (")", .reduce 66), ("*", .reduce 66), ("+", .reduce 66), (",", .reduce 66), ("-", .reduce 66), ("/", .reduce 66), (":", .reduce 66), (";", .reduce 66), ("<", .reduce 66), (">", .reduce 66), ("BREAK", .reduce 66), ("CONTINUE", .reduce 66), ("DOTADD", .reduce 66), ("DOTDIV", .reduce 66), ("DOTMUL", .reduce 66), ("DOTSUB", .reduce 66), ("EQ", .reduce 66), ("FOR", .reduce 66), ("GE", .reduce 66), ("ID", .reduce 66), ("IF", .reduce 66), ("LE", .reduce 66), ("NE", .reduce 66), ("PRINT", .reduce 66), ("RETURN", .reduce 66), ("WHILE", .reduce 66), ("\x7b", .reduce 66)],
    /- 76 -/ [("FLOATNUM", .shift 54), ("ID", .shift 109), ("INTNUM", .shift 47)],
    /- 77 -/ [(",", .shift 111), ("]", .shift 110)],
    /- 78 -/ [(",", .reduce 33), ("]", .reduce 33)],
    /- 79 -/ [("INTNUM", .shift 112)],
    /- 80 -/ [("'", .shift 74), ("*", .shift 71), ("+", .shift 73), ("-", .shift 72), ("/", .shift 70), (";", .reduce 25), ("DOTADD", .shift 69), ("DOTDIV", .shift 66), ("DOTMUL", .shift 67), ("DOTSUB", .shift 68)],
    /- 81 -/ [("'", .shift 74), ("*", .shift 71), ("+", .shift 73), ("-", .shift 72), ("/", .shift 70), (";", .reduce 26), ("DOTADD", .shift 69), ("DOTDIV", .shift 66), ("DOTMUL", .shift 67), ("DOTSUB", .shift 68)],
    /- 82 -/ [(",", .shift 114), ("]", .shift 113)],
    /- 83 -/ [("BREAK", .shift 15), ("CONTINUE", .shift 14), ("FOR", .shift 5), ("ID", .shift 18), ("IF", .shift 8), ("PRINT", .shift 12), ("RETURN", .shift 13), ("WHILE", .shift 7), ("\x7b", .shift 9)],
    /- 84 -/ [("'", .shift 74), ("*", .shift 71), ("+", .shift 73), ("-", .shift 72), ("/", .shift 70), (":", .shift 116), ("DOTADD", .shift 69), ("DOTDIV", .shift 66), ("DOTMUL", .shift 67), ("DOTSUB", .shift 68)],
    /- 85 -/ [("BREAK", .shift 15), ("CONTINUE", .shift 14), ("FOR", .shift 5), ("ID", .shift 18), ("IF", .shift 8), ("PRINT", .shift 12), ("RETURN", .shift 13), ("WHILE", .shift 7), ("\x7b", .shift 9)],
    /- 86 -/ [("-", .shift 44), ("EYE", .shift 53), ("FLOATNUM", .shift 54), ("ID", .shift 18), ("INTNUM", .shift 47), ("ONES", .shift 52), ("ZEROS", .shift 51), ("[", .shift 46)],
    /- 87 -/ [("-", .shift 44), ("EYE", .shift 53), ("FLOATNUM", .shift 54), ("ID", .shift 18), ("INTNUM", .shift 47), ("ONES", .shift 52), ("ZEROS", .shift 51), ("[", .shift 46)],
    /- 88 -/ [("-", .shift 44), ("EYE", .shift 53), ("FLOATNUM", .shift 54), ("ID", .shift 18), ("INTNUM", .shift 47), ("ONES", .shift 52), ("ZEROS", .shift 51), ("[", .shift 46)],
    /- 89 -/ [("-", .shift 44), ("EYE", .shift 53), ("FLOATNUM", .shift 54), ("ID", .shift 18), ("INTNUM", .shift 47), ("ONES", .shift 52), ("ZEROS", .shift 51), ("[", .shift 46)],
    /- 90 -/ [("-", .shift 44), ("EYE", .shift 53), ("FLOATNUM", .shift 54), ("ID", .shift 18), ("INTNUM", .shift 47), ("ONES", .shift 52), ("ZEROS", .shift 51), ("[", .shift 46)],
    /- 91 -/ [("-", .shift 44), ("EYE", .shift 53), ("FLOATNUM", .shift 54), ("ID", .shift 18), ("INTNUM", .shift 47), ("ONES", .shift 52), ("ZEROS", .shift 51), ("[", .shift 46)],
    /- 92 -/ [("BREAK", .shift 15), ("CONTINUE", .shift 14), ("FOR", .shift 5), ("ID", .shift 18), ("IF", .shift 8), ("PRINT", .shift 12), ("RETURN", .shift 13), ("WHILE", .shift 7), ("\x7b", .shift 9)],
    /- 93 -/ [(",", .reduce 73), (";", .reduce 73)],
    /- 94 -/ [("'", .shift 74), (")", .reduce 56), ("*", .reduce 56), ("+", .reduce 56), (",", .reduce 56), ("-", .reduce 56), ("/", .reduce 56), (":", .reduce 56), (";", .reduce 56), ("<", .reduce 56), (">", .reduce 56), ("BREAK", .reduce 56), ("CONTINUE", .reduce 56), ("DOTADD", .reduce 56), ("DOTDIV", .reduce 56), ("DOTMUL", .reduce 56), ("DOTSUB", .reduce 56), ("EQ", .reduce 56), ("FOR", .reduce 56), ("GE", .reduce 56), ("ID", .reduce 56), ("IF", .reduce 56), ("LE", .reduce 56), ("NE", .reduce 56), ("PRINT", .reduce 56), ("RETURN", .reduce 56), ("WHILE", .reduce 56), ("\x7b", .reduce 56)],
    /- 95 -/ [("'", .shift 74), (")", .reduce 57), ("*", .reduce 57), ("+", .reduce 57), (",", .reduce 57), ("-", .reduce 57), ("/", .reduce 57), (":", .reduce 57), (";", .reduce 57), ("<", .reduce 57), (">", .reduce 57), ("BREAK", .reduce 57), ("CONTINUE", .reduce 57), ("DOTADD", .reduce 57), ("DOTDIV", .reduce 57), ("DOTMUL", .reduce 57), ("DOTSUB", .reduce 57), ("EQ", .reduce 57), ("FOR", .reduce 57), ("GE", .reduce 57), ("ID", .reduce 57), ("IF", .reduce 57), ("LE", .reduce 57), ("NE", .reduce 57), ("PRINT", .reduce 57), ("RETURN", .reduce 57), ("WHILE", .reduce 57), ("\x7b", .reduce 57)],
    /- 96 -/ [("'", .shift 74), (")", .reduce 58), ("*", .shift 71), ("+", .reduce 58), (",", .reduce 58), ("-", .reduce 58), ("/", .shift 70), (":", .reduce 58), (";", .reduce 58), ("<", .reduce 58), (">", .reduce 58), ("BREAK", .reduce 58), ("CONTINUE", .reduce 58), ("DOTADD", .reduce 58), ("DOTDIV", .shift 66), ("DOTMUL", .shift 67), ("DOTSUB", .reduce 58), ("EQ", .reduce 58), ("FOR", .reduce 58), ("GE", .reduce 58), ("ID", .reduce 58), ("IF", .reduce 58), ("LE", .reduce 58), ("NE", .reduce 58), ("PRINT", .reduce 58), ("RETURN", .reduce 58), ("WHILE", .reduce 58), ("\x7b", .reduce 58)],
    /- 97 -/ [("'", .shift 74), (")", .reduce 59), ("*", .shift 71), ("+", .reduce 59), (",", .reduce 59), ("-", .reduce 59), ("/", .shift 70), (":", .reduce 59), (";", .reduce 59), ("<", .reduce 59), (">", .reduce 59), ("BREAK", .reduce 59), ("CONTINUE", .reduce 59), ("DOTADD", .reduce 59), ("DOTDIV", .shift 66), ("DOTMUL", .shift 67), ("DOTSUB", .reduce 59), ("EQ", .reduce 59), ("FOR", .reduce 59), ("GE", .reduce 59), ("ID", .reduce 59), ("IF", .reduce 59), ("LE", .reduce 59), ("NE", .reduce 59), ("PRINT", .reduce 59), ("RETURN", .reduce 59), ("WHILE", .reduce 59), ("\x7b", .reduce 59)],
    /- 98 -/ [("'", .shift 74), (")", .reduce 60), ("*", .reduce 60), ("+", .reduce 60), (",", .reduce 60), ("-", .reduce 60), ("/", .reduce 60), (":", .reduce 60), (";", .reduce 60), ("<", .reduce 60), (">", .reduce 60), ("BREAK", .reduce 60), ("CONTINUE", .reduce 60), ("DOTADD", .reduce 60), ("DOTDIV", .shift 66), ("DOTMUL", .shift 67), ("DOTSUB", .reduce 60), ("EQ", .reduce 60), ("FOR", .reduce 60), ("GE", .reduce 60), ("ID", .reduce 60), ("IF", .reduce 60), ("LE", .reduce 60), ("NE", .reduce 60), ("PRINT", .reduce 60), ("RETURN", .reduce 60), ("WHILE", .reduce 60), ("\x7b", .reduce 60)],
    /- 99 -/ [("'", .shift 74), (")", .reduce 61), ("*", .reduce 61), ("+", .reduce 61), (",", .reduce 61), ("-", .reduce 61), ("/", .reduce 61), (":", .reduce 61), (";", .reduce 61), ("<", .reduce 61), (">", .reduce 61), ("BREAK", .reduce 61), ("CONTINUE", .reduce 61), ("DOTADD", .reduce 61), ("DOTDIV", .shift 66), ("DOTMUL", .shift 67), ("DOTSUB", .reduce 61), ("EQ", .reduce 61), ("FOR", .reduce 61), ("GE", .reduce 61), ("ID", .reduce 61), ("IF", .reduce 61), ("LE", .reduce 61), ("NE", .reduce 61), ("PRINT", .reduce 61), ("RETURN", .reduce 61), ("WHILE", .reduce 61), ("\x7b", .reduce 61)],
    /- 100 -/ [("'", .shift 74), (")", .reduce 62), ("*", .shift 71), ("+", .reduce 62), (",", .reduce 62), ("-", .reduce 62), ("/", .shift 70), (":", .reduce 62), (";", .reduce 62), ("<", .reduce 62), (">", .reduce 62), ("BREAK", .reduce 62), ("CONTINUE", .reduce 62), ("DOTADD", .shift 69), ("DOTDIV", .shift 66), ("DOTMUL", .shift 67), ("DOTSUB", .shift 68), ("EQ", .reduce 62), ("FOR", .reduce 62), ("GE", .reduce 62), ("ID", .reduce 62), ("IF", .reduce 62), ("LE", .reduce 62), ("NE", .reduce 62), ("PRINT", .reduce 62), ("RETURN", .reduce 62), ("WHILE", .reduce 62), ("\x7b", .reduce 62)],
    /- 101 -/ [("'", .shift 74), (")", .reduce 63), ("*", .shift 71), ("+", .reduce 63), (",", .reduce 63), ("-", .reduce 63), ("/", .shift 70), (":", .reduce 63), (";", .reduce 63), ("<", .reduce 63), (">", .reduce 63), ("BREAK", .reduce 63), ("CONTINUE", .reduce 63), ("DOTADD", .shift 69), ("DOTDIV", .shift 66), ("DOTMUL", .shift 67), ("DOTSUB", .shift 68), ("EQ", .reduce 63), ("FOR", .reduce 63), ("GE", .reduce 63), ("ID", .reduce 63), ("IF", .reduce 63), ("LE", .reduce 63), ("NE", .reduce 63), ("PRINT", .reduce 63), ("RETURN", .reduce 63), ("WHILE", .reduce 63), ("\x7b", .reduce 63)],
    /- 102 -/ [(",", .shift 126), ("]", .shift 125)],
    /- 103 -/ [(",", .reduce 36), ("]", .reduce 36)],
    /- 104 -/ [(",", .reduce 38), ("]", .reduce 38)],
    /- 105 -/ [(",", .reduce 39), ("]", .reduce 39)],
    /- 106 -/ [(",", .reduce 40), ("]", .reduce 40)],
    /- 107 -/ [(",", .reduce 41), ("]", .reduce 41)],
    /- 108 -/ [(",", .reduce 42), ("]", .reduce 42)],
    /- 109 -/ [(",", .reduce 45), ("[", .shift 127), ("]", .reduce 45)],
    /- 110 -/ [("'", .reduce 32), (")", .reduce 32), ("*", .reduce 32), ("+", .reduce 32), (",", .reduce 32), ("-", .reduce 32), ("/", .reduce 32), (":", .reduce 32), (";", .reduce 32), ("<", .reduce 32), (">", .reduce 32), ("BREAK", .reduce 32), ("CONTINUE", .reduce 32), ("DOTADD", .reduce 32), ("DOTDIV", .reduce 32), ("DOTMUL", .reduce 32), ("DOTSUB", .reduce 32), ("EQ", .reduce 32), ("FOR", .reduce 32), ("GE", .reduce 32), ("ID", .reduce 32), ("IF", .reduce 32), ("LE", .reduce 32), ("NE", .reduce 32), ("PRINT", .reduce 32), ("RETURN", .reduce 32), ("WHILE", .reduce 32), ("\x7b", .reduce 32)],
    /- 111 -/ [("[", .shift 76)],
    /- 112 -/ [(")", .shift 129)],
    /- 113 -/ [("'", .reduce 43), (")", .reduce 43), ("*", .reduce 43), ("+", .reduce 43), (",", .reduce 43), ("-", .reduce 43), ("/", .reduce 43), (":", .reduce 43), (";", .reduce 43), ("<", .reduce 43), ("=", .reduce 43), (">", .reduce 43), ("ADDASSIGN", .reduce 43), ("BREAK", .reduce 43), ("CONTINUE", .reduce 43), ("DIVASSIGN", .reduce 43), ("DOTADD", .reduce 43), ("DOTDIV", .reduce 43), ("DOTMUL", .reduce 43), ("DOTSUB", .reduce 43), ("EQ", .reduce 43), ("FOR", .reduce 43), ("GE", .reduce 43), ("ID", .reduce 43), ("IF", .reduce 43), ("LE", .reduce 43), ("MULASSIGN", .reduce 43), ("NE", .reduce 43), ("PRINT", .reduce 43), ("RETURN", .reduce 43), ("SUBASSIGN", .reduce 43), ("WHILE", .reduce 43), ("]", .reduce 43), ("\x7b", .reduce 43)],
    /- 114 -/ [("INTNUM", .shift 130)],
    /- 115 -/ [("$end", .reduce 6), ("BREAK", .reduce 6), ("CONTINUE", .reduce 6), ("ELSE", .reduce 6), ("FOR", .reduce 6), ("ID", .reduce 6), ("IF", .reduce 6), ("PRINT", .reduce 6), ("RETURN", .reduce 6), ("WHILE", .reduce 6), ("\x7b", .reduce 6), ("\x7d", .reduce 6)],
    /- 116 -/ [("-", .shift 44), ("EYE", .shift 53), ("FLOATNUM", .shift 54), ("ID", .shift 18), ("INTNUM", .shift 47), ("ONES", .shift 52), ("ZEROS", .shift 51), ("[", .shift 46)],
    /- 117 -/ [("$end", .reduce 7), ("BREAK", .reduce 7), ("CONTINUE", .reduce 7), ("ELSE", .reduce 7), ("FOR", .reduce 7), ("ID", .reduce 7), ("IF", .reduce 7), ("PRINT", .reduce 7), ("RETURN", .reduce 7), ("WHILE", .reduce 7), ("\x7b", .reduce 7), ("\x7d", .reduce 7)],
    /- 118 -/ [("'", .shift 74), (")", .reduce 14), ("*", .shift 71), ("+", .shift 73), ("-", .shift 72), ("/", .shift 70), ("DOTADD", .shift 69), ("DOTDIV", .shift 66), ("DOTMUL", .shift 67), ("DOTSUB", .shift 68)],
    /- 119 -/ [("'", .shift 74), (")", .reduce 15), ("*", .shift 71), ("+", .shift 73), ("-", .shift 72), ("/", .shift 70), ("DOTADD", .shift 69), ("DOTDIV", .shift 66), ("DOTMUL", .shift 67), ("DOTSUB", .shift 68)],
    /- 120 -/ [("'", .shift 74), (")", .reduce 16), ("*", .shift 71), ("+", .shift 73), ("-", .shift 72), ("/", .shift 70), ("DOTADD", .shift 69), ("DOTDIV", .shift 66), ("DOTMUL", .shift 67), ("DOTSUB", .shift 68)],
    /- 121 -/ [("'", .shift 74), (")", .reduce 17), ("*", .shift 71), ("+", .shift 73), ("-", .shift 72), ("/", .shift 70), ("DOTADD", .shift 69), ("DOTDIV", .shift 66), ("DOTMUL", .shift 67), ("DOTSUB", .shift 68)],
    /- 122 -/ [("'", .shift 74), (")", .reduce 18), ("*", .shift 71), ("+", .shift 73), ("-", .shift 72), ("/", .shift 70), ("DOTADD", .shift 69), ("DOTDIV", .shift 66), ("DOTMUL", .shift 67), ("DOTSUB", .shift 68)],
    /- 123 -/ [("'", .shift 74), (")", .reduce 19), ("*", .shift 71), ("+", .shift 73), ("-", .shift 72), ("/", .shift 70), ("DOTADD", .shift 69), ("DOTDIV", .shift 66), ("DOTMUL", .shift 67), ("DOTSUB", .shift 68)],
    /- 124 -/ [("$end", .reduce 9), ("BREAK", .reduce 9), ("CONTINUE", .reduce 9), ("ELSE", .shift 132), ("FOR", .reduce 9), ("ID", .reduce 9), ("IF", .reduce 9), ("PRINT", .reduce 9), ("RETURN", .reduce 9), ("WHILE", .reduce 9), ("\x7b", .reduce 9), ("\x7d", .reduce 9)],
    /- 125 -/ [(",", .reduce 35), ("]", .reduce 35)],
    /- 126 -/ [("FLOATNUM", .shift 54), ("ID", .shift 109), ("INTNUM", .shift 47)],
    /- 127 -/ [("INTNUM", .shift 134)],
    /- 128 -/ [(",", .reduce 34), ("]", .reduce 34)],
    /- 129 -/ [("'", .reduce 28), (")", .reduce 28), ("*", .reduce 28), ("+", .reduce 28), (",", .reduce 28), ("-", .reduce 28), ("/", .reduce 28), (":", .reduce 28), (";", .reduce 28), ("<", .reduce 28), (">", .reduce 28), ("BREAK", .reduce 28), ("CONTINUE", .reduce 28), ("DOTADD", .reduce 28), ("DOTDIV", .reduce 28), ("DOTMUL", .reduce 28), ("DOTSUB", .reduce 28), ("EQ", .reduce 28), ("FOR", .reduce 28), ("GE", .reduce 28), ("ID", .reduce 28), ("IF", .reduce 28), ("LE", .reduce 28), ("NE", .reduce 28), ("PRINT", .reduce 28), ("RETURN", .reduce 28), ("WHILE", .reduce 28), ("\x7b", .reduce 28)],
    /- 130 -/ [("]", .shift 135)],
    /- 131 -/ [("'", .shift 74), ("*", .shift 71), ("+", .shift 73), ("-", .shift 72), ("/", .shift 70), ("BREAK", .reduce 13), ("CONTINUE", .reduce 13), ("DOTADD", .shift 69), ("DOTDIV", .shift 66), ("DOTMUL", .shift 67), ("DOTSUB", .shift 68), ("FOR", .reduce 13), ("ID", .reduce 13), ("IF", .reduce 13), ("PRINT", .reduce 13), ("RETURN", .reduce 13), ("WHILE", .reduce 13), ("\x7b", .reduce 13)],
    /- 132 -/ [("BREAK", .shift 15), ("CONTINUE", .shift 14), ("FOR", .shift 5), ("ID", .shift 18), ("IF", .shift 8), ("PRINT", .shift 12), ("RETURN", .shift 13), ("WHILE", .shift 7), ("\x7b", .shift 9)],
    /- 133 -/ [(",", .reduce 37), ("]", .reduce 37)],
    /- 134 -/ [(",", .shift 114), ("]", .shift 113)],
    /- 135 -/ [("'", .reduce 44), (")", .reduce 44), ("*", .reduce 44), ("+", .reduce 44), (",", .reduce 44), ("-", .reduce 44), ("/", .reduce 44), (":", .reduce 44), (";", .reduce 44), ("<", .reduce 44), ("=", .reduce 44), (">", .reduce 44), ("ADDASSIGN", .reduce 44), ("BREAK", .reduce 44), ("CONTINUE", .reduce 44), ("DIVASSIGN", .reduce 44), ("DOTADD", .reduce 44), ("DOTDIV", .reduce 44), ("DOTMUL", .reduce 44), ("DOTSUB", .reduce 44), ("EQ", .reduce 44), ("FOR", .reduce 44), ("GE", .reduce 44), ("ID", .reduce 44), ("IF", .reduce 44), ("LE", .reduce 44), ("MULASSIGN", .reduce 44), ("NE", .reduce 44), ("PRINT", .reduce 44), ("RETURN", .reduce 44), ("SUBASSIGN", .reduce 44), ("WHILE", .reduce 44), ("]", .reduce 44), ("\x7b", .reduce 44)],
    /- 136 -/ [("$end", .reduce 8), ("BREAK", .reduce 8), ("CONTINUE", .reduce 8), ("ELSE", .reduce 8), ("FOR", .reduce 8), ("ID", .reduce 8), ("IF", .reduce 8), ("PRINT", .reduce 8), ("RETURN", .reduce 8), ("WHILE", .reduce 8), ("\x7b", .reduce 8), ("\x7d", .reduce 8)]]
  goto := #[
    /- 0 -/ [("assignment", 11), ("instruction", 4), ("instructions", 3), ("instructions_opt", 2), ("matrix_element", 17), ("program", 1), ("statement", 10), ("var", 6), ("vector_element", 16)],
    /- 1 -/ [],
    /- 2 -/ [],
    /- 3 -/ [],
    /- 4 -/ [("assignment", 11), ("instruction", 4), ("instructions", 19), ("matrix_element", 17), ("statement", 10), ("var", 6), ("vector_element", 16)],
    /- 5 -/ [("var", 20)],
    /- 6 -/ [("assignment_op", 22)],
    /- 7 -/ [],
    /- 8 -/ [],
    /- 9 -/ [("assignment", 11), ("instruction", 4), ("instructions", 30), ("matrix_element", 17), ("statement", 10), ("var", 6), ("vector_element", 16)],
    /- 10 -/ [],
    /- 11 -/ [],
    /- 12 -/ [("expression", 35), ("matrix", 42), ("matrix_element", 38), ("matrix_function", 41), ("matrix_function_name", 48), ("num_expression", 43), ("number", 50), ("print_val", 34), ("print_vals", 33), ("string", 36), ("transposition", 39), ("uminus", 40), ("var", 49), ("vector_element", 37)],
    /- 13 -/ [("expression", 55), ("matrix", 42), ("matrix_element", 38), ("matrix_function", 41), ("matrix_function_name", 48), ("num_expression", 43), ("number", 50), ("transposition", 39), ("uminus", 40), ("var", 49), ("vector_element", 37)],
    /- 14 -/ [],
    /- 15 -/ [],
    /- 16 -/ [("assignment_op", 56)],
    /- 17 -/ [("assignment_op", 57)],
    /- 18 -/ [],
    /- 19 -/ [],
    /- 20 -/ [],
    /- 21 -/ [],
    /- 22 -/ [("expression", 60), ("matrix", 42), ("matrix_element", 38), ("matrix_function", 41), ("matrix_function_name", 48), ("num_expression", 43), ("number", 50), ("transposition", 39), ("uminus", 40), ("var", 49), ("vector_element", 37)],
    /- 23 -/ [],
    /- 24 -/ [],
    /- 25 -/ [],
    /- 26 -/ [],
    /- 27 -/ [],
    /- 28 -/ [("condition", 61), ("expression", 62), ("matrix", 42), ("matrix_element", 38), ("matrix_function", 41), ("matrix_function_name", 48), ("num_expression", 43), ("number", 50), ("transposition", 39), ("uminus", 40), ("var", 49), ("vector_element", 37)],
    /- 29 -/ [("condition", 63), ("expression", 62), ("matrix", 42), ("matrix_element", 38), ("matrix_function", 41), ("matrix_function_name", 48), ("num_expression", 43), ("number", 50), ("transposition", 39), ("uminus", 40), ("var", 49), ("vector_element", 37)],
    /- 30 -/ [],
    /- 31 -/ [],
    /- 32 -/ [],
    /- 33 -/ [],
    /- 34 -/ [],
    /- 35 -/ [],
    /- 36 -/ [],
    /- 37 -/ [],
    /- 38 -/ [],
    /- 39 -/ [],
    /- 40 -/ [],
    /- 41 -/ [],
    /- 42 -/ [],
    /- 43 -/ [],
    /- 44 -/ [("expression", 75), ("matrix", 42), ("matrix_element", 38), ("matrix_function", 41), ("matrix_function_name", 48), ("num_expression", 43), ("number", 50), ("transposition", 39), ("uminus", 40), ("var", 49), ("vector_element", 37)],
    /- 45 -/ [],
    /- 46 -/ [("vector", 78), ("vectors", 77)],
    /- 47 -/ [],
    /- 48 -/ [],
    /- 49 -/ [],
    /- 50 -/ [],
    /- 51 -/ [],
    /- 52 -/ [],
    /- 53 -/ [],
    /- 54 -/ [],
    /- 55 -/ [],
    /- 56 -/ [("expression", 80), ("matrix", 42), ("matrix_element", 38), ("matrix_function", 41), ("matrix_function_name", 48), ("num_expression", 43), ("number", 50), ("transposition", 39), ("uminus", 40), ("var", 49), ("vector_element", 37)],
    /- 57 -/ [("expression", 81), ("matrix", 42), ("matrix_element", 38), ("matrix_function", 41), ("matrix_function_name", 48), ("num_expression", 43), ("number", 50), ("transposition", 39), ("uminus", 40), ("var", 49), ("vector_element", 37)],
    /- 58 -/ [],
    /- 59 -/ [("expression", 84), ("matrix", 42), ("matrix_element", 38), ("matrix_function", 41), ("matrix_function_name", 48), ("num_expression", 43), ("number", 50), ("range", 83), ("transposition", 39), ("uminus", 40), ("var", 49), ("vector_element", 37)],
    /- 60 -/ [],
    /- 61 -/ [],
    /- 62 -/ [],
    /- 63 -/ [],
    /- 64 -/ [],
    /- 65 -/ [("expression", 35), ("matrix", 42), ("matrix_element", 38), ("matrix_function", 41), ("matrix_function_name", 48), ("num_expression", 43), ("number", 50), ("print_val", 93), ("string", 36), ("transposition", 39), ("uminus", 40), ("var", 49), ("vector_element", 37)],
    /- 66 -/ [("expression", 94), ("matrix", 42), ("matrix_element", 38), ("matrix_function", 41), ("matrix_function_name", 48), ("num_expression", 43), ("number", 50), ("transposition", 39), ("uminus", 40), ("var", 49), ("vector_element", 37)],
    /- 67 -/ [("expression", 95), ("matrix", 42), ("matrix_element", 38), ("matrix_function", 41), ("matrix_function_name", 48), ("num_expression", 43), ("number", 50), ("transposition", 39), ("uminus", 40), ("var", 49), ("vector_element", 37)],
    /- 68 -/ [("expression", 96), ("matrix", 42), ("matrix_element", 38), ("matrix_function", 41), ("matrix_function_name", 48), ("num_expression", 43), ("number", 50), ("transposition", 39), ("uminus", 40), ("var", 49), ("vector_element", 37)],
    /- 69 -/ [("expression", 97), ("matrix", 42), ("matrix_element", 38), ("matrix_function", 41), ("matrix_function_name", 48), ("num_expression", 43), ("number", 50), ("transposition", 39), ("uminus", 40), ("var", 49), ("vector_element", 37)],
    /- 70 -/ [("expression", 98), ("matrix", 42), ("matrix_element", 38), ("matrix_function", 41), ("matrix_function_name", 48), ("num_expression", 43), ("number", 50), ("transposition", 39), ("uminus", 40), ("var", 49), ("vector_element", 37)],
    /- 71 -/ [("expression", 99), ("matrix", 42), ("matrix_element", 38), ("matrix_function", 41), ("matrix_function_name", 48), ("num_expression", 43), ("number", 50), ("transposition", 39), ("uminus", 40), ("var", 49), ("vector_element", 37)],
    /- 72 -/ [("expression", 100), ("matrix", 42), ("matrix_element", 38), ("matrix_function", 41), ("matrix_function_name", 48), ("num_expression", 43), ("number", 50), ("transposition", 39), ("uminus", 40), ("var", 49), ("vector_element", 37)],
    /- 73 -/ [("expression", 101), ("matrix", 42), ("matrix_element", 38), ("matrix_function", 41), ("matrix_function_name", 48), ("num_expression", 43), ("number", 50), ("transposition", 39), ("uminus", 40), ("var", 49), ("vector_element", 37)],
    /- 74 -/ [],
    /- 75 -/ [],
    /- 76 -/ [("element", 104), ("matrix_element", 107), ("number", 106), ("var", 105), ("variable", 103), ("variables", 102), ("vector_element", 108)],
    /- 77 -/ [],
    /- 78 -/ [],
    /- 79 -/ [],
    /- 80 -/ [],
    /- 81 -/ [],
    /- 82 -/ [],
    /- 83 -/ [("assignment", 11), ("instruction", 115), ("matrix_element", 17), ("statement", 10), ("var", 6), ("vector_element", 16)],
    /- 84 -/ [],
    /- 85 -/ [("assignment", 11), ("instruction", 117), ("matrix_element", 17), ("statement", 10), ("var", 6), ("vector_element", 16)],
    /- 86 -/ [("expression", 118), ("matrix", 42), ("matrix_element", 38), ("matrix_function", 41), ("matrix_function_name", 48), ("num_expression", 43), ("number", 50), ("transposition", 39), ("uminus", 40), ("var", 49), ("vector_element", 37)],
    /- 87 -/ [("expression", 119), ("matrix", 42), ("matrix_element", 38), ("matrix_function", 41), ("matrix_function_name", 48), ("num_expression", 43), ("number", 50), ("transposition", 39), ("uminus", 40), ("var", 49), ("vector_element", 37)],
    /- 88 -/ [("expression", 120), ("matrix", 42), ("matrix_element", 38), ("matrix_function", 41), ("matrix_function_name", 48), ("num_expression", 43), ("number", 50), ("transposition", 39), ("uminus", 40), ("var", 49), ("vector_element", 37)],
    /- 89 -/ [("expression", 121), ("matrix", 42), ("matrix_element", 38), ("matrix_function", 41), ("matrix_function_name", 48), ("num_expression", 43), ("number", 50), ("transposition", 39), ("uminus", 40), ("var", 49), ("vector_element", 37)],
    /- 90 -/ [("expression", 122), ("matrix", 42), ("matrix_element", 38), ("matrix_function", 41), ("matrix_function_name", 48), ("num_expression", 43), ("number", 50), ("transposition", 39), ("uminus", 40), ("var", 49), ("vector_element", 37)],
    /- 91 -/ [("expression", 123), ("matrix", 42), ("matrix_element", 38), ("matrix_function", 41), ("matrix_function_name", 48), ("num_expression", 43), ("number", 50), ("transposition", 39), ("uminus", 40), ("var", 49), ("vector_element", 37)],
    /- 92 -/ [("assignment", 11), ("instruction", 124), ("matrix_element", 17), ("statement", 10), ("var", 6), ("vector_element", 16)],
    /- 93 -/ [],
    /- 94 -/ [],
    /- 95 -/ [],
    /- 96 -/ [],
    /- 97 -/ [],
    /- 98 -/ [],
    /- 99 -/ [],
    /- 100 -/ [],
    /- 101 -/ [],
    /- 102 -/ [],
    /- 103 -/ [],
    /- 104 -/ [],
    /- 105 -/ [],
    /- 106 -/ [],
    /- 107 -/ [],
    /- 108 -/ [],
    /- 109 -/ [],
    /- 110 -/ [],
    /- 111 -/ [("vector", 128)],
    /- 112 -/ [],
    /- 113 -/ [],
    /- 114 -/ [],
    /- 115 -/ [],
    /- 116 -/ [("expression", 131), ("matrix", 42), ("matrix_element", 38), ("matrix_function", 41), ("matrix_function_name", 48), ("num_expression", 43), ("number", 50), ("transposition", 39), ("uminus", 40), ("var", 49), ("vector_element", 37)],
    /- 117 -/ [],
    /- 118 -/ [],
    /- 119 -/ [],
    /- 120 -/ [],
    /- 121 -/ [],
    /- 122 -/ [],
    /- 123 -/ [],
    /- 124 -/ [],
    /- 125 -/ [],
    /- 126 -/ [("element", 104), ("matrix_element", 107), ("number", 106), ("var", 105), ("variable", 133), ("vector_element", 108)],
    /- 127 -/ [],
    /- 128 -/ [],
    /- 129 -/ [],
    /- 130 -/ [],
    /- 131 -/ [],
    /- 132 -/ [("assignment", 11), ("instruction", 136), ("matrix_element", 17), ("statement", 10), ("var", 6), ("vector_element", 16)],
    /- 133 -/ [],
    /- 134 -/ [],
    /- 135 -/ [],
    /- 136 -/ []]

end MatrixLang.Outline
