import MatrixLang.Grammar.Table

/-!
# The parse table of version 4

The LALR(1) table of the version 4 grammar (`Annotated.grammar`), with its conflicts settled by the
grammar's precedence levels, as the parser generator builds it. States are numbered in the order
the generator finds them, from the start state `0`; a reduction names its production by the
numbering of `Grammar.numbered`. Each state has one row of actions, by terminal, and one row of
moves, by nonterminal.
-/
namespace MatrixLang.Annotated

/-- The parse table of version 4. -/
def table : Grammar.Table where
  actions := #[
    /- 0 -/ [(";", .shift 4), ("BREAK", .shift 12), ("CONTINUE", .shift 11), ("FOR", .shift 15), ("ID", .shift 16), ("IF", .shift 18), ("PRINT", .shift 13), ("RETURN", .shift 3), ("WHILE", .shift 17), ("\x7b", .shift 10)],
    /- 1 -/ [("$end", .accept), (";", .shift 4), ("BREAK", .shift 12), ("CONTINUE", .shift 11), ("FOR", .shift 15), ("ID", .shift 16), ("IF", .shift 18), ("PRINT", .shift 13), ("RETURN", .shift 3), ("WHILE", .shift 17), ("\x7b", .shift 10)],
    /- 2 -/ [("$end", .reduce 2), (";", .reduce 2), ("BREAK", .reduce 2), ("CONTINUE", .reduce 2), ("FOR", .reduce 2), ("ID", .reduce 2), ("IF", .reduce 2), ("PRINT", .reduce 2), ("RETURN", .reduce 2), ("WHILE", .reduce 2), ("\x7b", .reduce 2), ("\x7d", .reduce 2)],
    /- 3 -/ [("-", .shift 23), ("EYE", .shift 31), ("FLOATNUM", .shift 36), ("ID", .shift 30), ("INTNUM", .shift 32), ("ONES", .shift 33), ("STRING", .shift 35), ("ZEROS", .shift 34), ("[", .shift 24)],
    /- 4 -/ [("$end", .reduce 10), (";", .reduce 10), ("BREAK", .reduce 10), ("CONTINUE", .reduce 10), ("ELSE", .reduce 10), ("FOR", .reduce 10), ("ID", .reduce 10), ("IF", .reduce 10), ("PRINT", .reduce 10), ("RETURN", .reduce 10), ("WHILE", .reduce 10), ("\x7b", .reduce 10), ("\x7d", .reduce 10)],
    /- 5 -/ [("$end", .reduce 4), (";", .reduce 4), ("BREAK", .reduce 4), ("CONTINUE", .reduce 4), ("ELSE", .reduce 4), ("FOR", .reduce 4), ("ID", .reduce 4), ("IF", .reduce 4), ("PRINT", .reduce 4), ("RETURN", .reduce 4), ("WHILE", .reduce 4), ("\x7b", .reduce 4), ("\x7d", .reduce 4)],
    /- 6 -/ [("$end", .reduce 5), (";", .reduce 5), ("BREAK", .reduce 5), ("CONTINUE", .reduce 5), ("ELSE", .reduce 5), ("FOR", .reduce 5), ("ID", .reduce 5), ("IF", .reduce 5), ("PRINT", .reduce 5), ("RETURN", .reduce 5), ("WHILE", .reduce 5), ("\x7b", .reduce 5), ("\x7d", .reduce 5)],
    /- 7 -/ [("$end", .reduce 6), (";", .reduce 6), ("BREAK", .reduce 6), ("CONTINUE", .reduce 6), ("ELSE", .reduce 6), ("FOR", .reduce 6), ("ID", .reduce 6), ("IF", .reduce 6), ("PRINT", .reduce 6), ("RETURN", .reduce 6), ("WHILE", .reduce 6), ("\x7b", .reduce 6), ("\x7d", .reduce 6)],
    /- 8 -/ [("$end", .reduce 7), (";", .reduce 7), ("BREAK", .reduce 7), ("CONTINUE", .reduce 7), ("ELSE", .reduce 7), ("FOR", .reduce 7), ("ID", .reduce 7), ("IF", .reduce 7), ("PRINT", .reduce 7), ("RETURN", .reduce 7), ("WHILE", .reduce 7), ("\x7b", .reduce 7), ("\x7d", .reduce 7)],
    /- 9 -/ [("$end", .reduce 8), (";", .reduce 8), ("BREAK", .reduce 8), ("CONTINUE", .reduce 8), ("ELSE", .reduce 8), ("FOR", .reduce 8), ("ID", .reduce 8), ("IF", .reduce 8), ("PRINT", .reduce 8), ("RETURN", .reduce 8), ("WHILE", .reduce 8), ("\x7b", .reduce 8), ("\x7d", .reduce 8)],
    /- 10 -/ [(";", .shift 4), ("BREAK", .shift 12), ("CONTINUE", .shift 11), ("FOR", .shift 15), ("ID", .shift 16), ("IF", .shift 18), ("PRINT", .shift 13), ("RETURN", .shift 3), ("WHILE", .shift 17), ("\x7b", .shift 10)],
    /- 11 -/ [(";", .shift 38)],
    /- 12 -/ [(";", .shift 39)],
    /- 13 -/ [("FLOATNUM", .shift 36), ("ID", .shift 42), ("INTNUM", .shift 32), ("STRING", .shift 35)],
    /- 14 -/ [("=", .shift 47), ("ADDASSIGN", .shift 46), ("DIVASSIGN", .shift 43), ("MULASSIGN", .shift 44), ("SUBASSIGN", .shift 45)],
    /- 15 -/ [("ID", .shift 48)],
    /- 16 -/ [("=", .reduce 52), ("ADDASSIGN", .reduce 52), ("DIVASSIGN", .reduce 52), ("MULASSIGN", .reduce 52), ("SUBASSIGN", .reduce 52), ("[", .shift 49)],
    /- 17 -/ [("(", .shift 50)],
    /- 18 -/ [("(", .shift 51)],
    /- 19 -/ [("=", .reduce 50), ("ADDASSIGN", .reduce 50), ("DIVASSIGN", .reduce 50), ("MULASSIGN", .reduce 50), ("SUBASSIGN", .reduce 50)],
    /- 20 -/ [("=", .reduce 51), ("ADDASSIGN", .reduce 51), ("DIVASSIGN", .reduce 51), ("MULASSIGN", .reduce 51), ("SUBASSIGN", .reduce 51)],
    /- 21 -/ [("$end", .reduce 1), (";", .reduce 1), ("BREAK", .reduce 1), ("CONTINUE", .reduce 1), ("FOR", .reduce 1), ("ID", .reduce 1), ("IF", .reduce 1), ("PRINT", .reduce 1), ("RETURN", .reduce 1), ("WHILE", .reduce 1), ("\x7b", .reduce 1), ("\x7d", .reduce 1)],
    /- 22 -/ [("'", .shift 61), ("*", .shift 58), ("+", .shift 60), ("-", .shift 59), ("/", .shift 57), (";", .shift 52), ("<", .shift 67), (">", .shift 66), ("DOTADD", .shift 56), ("DOTDIV", .shift 53), ("DOTMUL", .shift 54), ("DOTSUB", .shift 55), ("EQ", .shift 63), ("GE", .shift 64), ("LE", .shift 65), ("NE", .shift 62)],
    /- 23 -/ [("-", .shift 23), ("EYE", .shift 31), ("FLOATNUM", .shift 36), ("ID", .shift 30), ("INTNUM", .shift 32), ("ONES", .shift 33), ("STRING", .shift 35), ("ZEROS", .shift 34), ("[", .shift 24)],
    /- 24 -/ [("INTNUM", .shift 72), ("[", .shift 69)],
    /- 25 -/ [("'", .reduce 34), (")", .reduce 34), ("*", .reduce 34), ("+", .reduce 34), ("-", .reduce 34), ("/", .reduce 34), (";", .reduce 34), ("<", .reduce 34), ("=", .reduce 51), (">", .reduce 34), ("ADDASSIGN", .reduce 51), ("DIVASSIGN", .reduce 51), ("DOTADD", .reduce 34), ("DOTDIV", .reduce 34), ("DOTMUL", .reduce 34), ("DOTSUB", .reduce 34), ("EQ", .reduce 34), ("GE", .reduce 34), ("LE", .reduce 34), ("MULASSIGN", .reduce 51), ("NE", .reduce 34), ("SUBASSIGN", .reduce 51)],
    /- 26 -/ [("'", .reduce 35), (")", .reduce 35), ("*", .reduce 35), ("+", .reduce 35), ("-", .reduce 35), ("/", .reduce 35), (";", .reduce 35), ("<", .reduce 35), (">", .reduce 35), ("DOTADD", .reduce 35), ("DOTDIV", .reduce 35), ("DOTMUL", .reduce 35), ("DOTSUB", .reduce 35), ("EQ", .reduce 35), ("GE", .reduce 35), ("LE", .reduce 35), ("NE", .reduce 35)],
    /- 27 -/ [("'", .reduce 36), (")", .reduce 36), ("*", .reduce 36), ("+", .reduce 36), ("-", .reduce 36), ("/", .reduce 36), (";", .reduce 36), ("<", .reduce 36), (">", .reduce 36), ("DOTADD", .reduce 36), ("DOTDIV", .reduce 36), ("DOTMUL", .reduce 36), ("DOTSUB", .reduce 36), ("EQ", .reduce 36), ("GE", .reduce 36), ("LE", .reduce 36), ("NE", .reduce 36)],
    /- 28 -/ [("'", .reduce 37), (")", .reduce 37), ("*", .reduce 37), ("+", .reduce 37), ("-", .reduce 37), ("/", .reduce 37), (";", .reduce 37), ("<", .reduce 37), (">", .reduce 37), ("DOTADD", .reduce 37), ("DOTDIV", .reduce 37), ("DOTMUL", .reduce 37), ("DOTSUB", .reduce 37), ("EQ", .reduce 37), ("GE", .reduce 37), ("LE", .reduce 37), ("NE", .reduce 37)],
    /- 29 -/ [("'", .reduce 38), (")", .reduce 38), ("*", .reduce 38), ("+", .reduce 38), ("-", .reduce 38), ("/", .reduce 38), (";", .reduce 38), ("<", .reduce 38), (">", .reduce 38), ("DOTADD", .reduce 38), ("DOTDIV", .reduce 38), ("DOTMUL", .reduce 38), ("DOTSUB", .reduce 38), ("EQ", .reduce 38), ("GE", .reduce 38), ("LE", .reduce 38), ("NE", .reduce 38)],
    /- 30 -/ [("'", .reduce 67), (")", .reduce 67), ("*", .reduce 67), ("+", .reduce 67), ("-", .reduce 67), ("/", .reduce 67), (";", .reduce 67), ("<", .reduce 67), ("=", .reduce 52), (">", .reduce 67), ("ADDASSIGN", .reduce 52), ("DIVASSIGN", .reduce 52), ("DOTADD", .reduce 67), ("DOTDIV", .reduce 67), ("DOTMUL", .reduce 67), ("DOTSUB", .reduce 67), ("EQ", .reduce 67), ("GE", .reduce 67), ("LE", .reduce 67), ("MULASSIGN", .reduce 52), ("NE", .reduce 67), ("SUBASSIGN", .reduce 52), ("[", .shift 73)],
    /- 31 -/ [("(", .shift 74)],
    /- 32 -/ [("'", .reduce 69), (")", .reduce 69), ("*", .reduce 69), ("+", .reduce 69), (",", .reduce 69), ("-", .reduce 69), ("/", .reduce 69), (";", .reduce 69), ("<", .reduce 69), (">", .reduce 69), ("DOTADD", .reduce 69), ("DOTDIV", .reduce 69), ("DOTMUL", .reduce 69), ("DOTSUB", .reduce 69), ("EQ", .reduce 69), ("GE", .reduce 69), ("LE", .reduce 69), ("NE", .reduce 69)],
    /- 33 -/ [("(", .shift 75)],
    /- 34 -/ [("(", .shift 76)],
    /- 35 -/ [("'", .reduce 66), (")", .reduce 66), ("*", .reduce 66), ("+", .reduce 66), (",", .reduce 66), ("-", .reduce 66), ("/", .reduce 66), (";", .reduce 66), ("<", .reduce 66), (">", .reduce 66), ("DOTADD", .reduce 66), ("DOTDIV", .reduce 66), ("DOTMUL", .reduce 66), ("DOTSUB", .reduce 66), ("EQ", .reduce 66), ("GE", .reduce 66), ("LE", .reduce 66), ("NE", .reduce 66)],
    /- 36 -/ [("'", .reduce 68), (")", .reduce 68), ("*", .reduce 68), ("+", .reduce 68), (",", .reduce 68), ("-", .reduce 68), ("/", .reduce 68), (";", .reduce 68), ("<", .reduce 68), (">", .reduce 68), ("DOTADD", .reduce 68), ("DOTDIV", .reduce 68), ("DOTMUL", .reduce 68), ("DOTSUB", .reduce 68), ("EQ", .reduce 68), ("GE", .reduce 68), ("LE", .reduce 68), ("NE", .reduce 68)],
    /- 37 -/ [(";", .shift 4), ("BREAK", .shift 12), ("CONTINUE", .shift 11), ("FOR", .shift 15), ("ID", .shift 16), ("IF", .shift 18), ("PRINT", .shift 13), ("RETURN", .shift 3), ("WHILE", .shift 17), ("\x7b", .shift 10), ("\x7d", .shift 77)],
    /- 38 -/ [("$end", .reduce 11), (";", .reduce 11), ("BREAK", .reduce 11), ("CONTINUE", .reduce 11), ("ELSE", .reduce 11), ("FOR", .reduce 11), ("ID", .reduce 11), ("IF", .reduce 11), ("PRINT", .reduce 11), ("RETURN", .reduce 11), ("WHILE", .reduce 11), ("\x7b", .reduce 11), ("\x7d", .reduce 11)],
    /- 39 -/ [("$end", .reduce 12), (";", .reduce 12), ("BREAK", .reduce 12), ("CONTINUE", .reduce 12), ("ELSE", .reduce 12), ("FOR", .reduce 12), ("ID", .reduce 12), ("IF", .reduce 12), ("PRINT", .reduce 12), ("RETURN", .reduce 12), ("WHILE", .reduce 12), ("\x7b", .reduce 12), ("\x7d", .reduce 12)],
    /- 40 -/ [(",", .shift 79), (";", .shift 78)],
    /- 41 -/ [(",", .reduce 18), (";", .reduce 18)],
    /- 42 -/ [(",", .reduce 67), (";", .reduce 67)],
    /- 43 -/ [("-", .shift 23), ("EYE", .shift 31), ("FLOATNUM", .shift 36), ("ID", .shift 30), ("INTNUM", .shift 32), ("ONES", .shift 33), ("STRING", .shift 35), ("ZEROS", .shift 34), ("[", .shift 24)],
    /- 44 -/ [("-", .shift 23), ("EYE", .shift 31), ("FLOATNUM", .shift 36), ("ID", .shift 30), ("INTNUM", .shift 32), ("ONES", .shift 33), ("STRING", .shift 35), ("ZEROS", .shift 34), ("[", .shift 24)],
    /- 45 -/ [("-", .shift 23), ("EYE", .shift 31), ("FLOATNUM", .shift 36), ("ID", .shift 30), ("INTNUM", .shift 32), ("ONES", .shift 33), ("STRING", .shift 35), ("ZEROS", .shift 34), ("[", .shift 24)],
    /- 46 -/ [("-", .shift 23), ("EYE", .shift 31), ("FLOATNUM", .shift 36), ("ID", .shift 30), ("INTNUM", .shift 32), ("ONES", .shift 33), ("STRING", .shift 35), ("ZEROS", .shift 34), ("[", .shift 24)],
    /- 47 -/ [("-", .shift 23), ("EYE", .shift 31), ("FLOATNUM", .shift 36), ("ID", .shift 30), ("INTNUM", .shift 32), ("ONES", .shift 33), ("STRING", .shift 35), ("ZEROS", .shift 34), ("[", .shift 24)],
    /- 48 -/ [("=", .shift 85)],
    /- 49 -/ [(":", .shift 88), ("ID", .shift 86), ("INTNUM", .shift 90)],
    /- 50 -/ [("-", .shift 23), ("EYE", .shift 31), ("FLOATNUM", .shift 36), ("ID", .shift 30), ("INTNUM", .shift 32), ("ONES", .shift 33), ("STRING", .shift 35), ("ZEROS", .shift 34), ("[", .shift 24)],
    /- 51 -/ [("-", .shift 23), ("EYE", .shift 31), ("FLOATNUM", .shift 36), ("ID", .shift 30), ("INTNUM", .shift 32), ("ONES", .shift 33), ("STRING", .shift 35), ("ZEROS", .shift 34), ("[", .shift 24)],
    /- 52 -/ [("$end", .reduce 3), (";", .reduce 3), ("BREAK", .reduce 3), ("CONTINUE", .reduce 3), ("ELSE", .reduce 3), ("FOR", .reduce 3), ("ID", .reduce 3), ("IF", .reduce 3), ("PRINT", .reduce 3), ("RETURN", .reduce 3), ("WHILE", .reduce 3), ("\x7b", .reduce 3), ("\x7d", .reduce 3)],
    /- 53 -/ [("-", .shift 23), ("EYE", .shift 31), ("FLOATNUM", .shift 36), ("ID", .shift 30), ("INTNUM", .shift 32), ("ONES", .shift 33), ("STRING", .shift 35), ("ZEROS", .shift 34), ("[", .shift 24)],
    /- 54 -/ [("-", .shift 23), ("EYE", .shift 31), ("FLOATNUM", .shift 36), ("ID", .shift 30), ("INTNUM", .shift 32), ("ONES", .shift 33), ("STRING", .shift 35), ("ZEROS", .shift 34), ("[", .shift 24)],
    /- 55 -/ [("-", .shift 23), ("EYE", .shift 31), ("FLOATNUM", .shift 36), ("ID", .shift 30), ("INTNUM", .shift 32), ("ONES", .shift 33), ("STRING", .shift 35), ("ZEROS", .shift 34), ("[", .shift 24)],
    /- 56 -/ [("-", .shift 23), ("EYE", .shift 31), ("FLOATNUM", .shift 36), ("ID", .shift 30), ("INTNUM", .shift 32), ("ONES", .shift 33), ("STRING", .shift 35), ("ZEROS", .shift 34), ("[", .shift 24)],
    /- 57 -/ [("-", .shift 23), ("EYE", .shift 31), ("FLOATNUM", .shift 36), ("ID", .shift 30), ("INTNUM", .shift 32), ("ONES", .shift 33), ("STRING", .shift 35), ("ZEROS", .shift 34), ("[", .shift 24)],
    /- 58 -/ [("-", .shift 23), ("EYE", .shift 31), ("FLOATNUM", .shift 36), ("ID", .shift 30), ("INTNUM", .shift 32), ("ONES", .shift 33), ("STRING", .shift 35), ("ZEROS", .shift 34), ("[", .shift 24)],
    /- 59 -/ [("-", .shift 23), ("EYE", .shift 31), ("FLOATNUM", .shift 36), ("ID", .shift 30), ("INTNUM", .shift 32), ("ONES", .shift 33), ("STRING", .shift 35), ("ZEROS", .shift 34), ("[", .shift 24)],
    /- 60 -/ [("-", .shift 23), ("EYE", .shift 31), ("FLOATNUM", .shift 36), ("ID", .shift 30), ("INTNUM", .shift 32), ("ONES", .shift 33), ("STRING", .shift 35), ("ZEROS", .shift 34), ("[", .shift 24)],
    /- 61 -/ [("'", .reduce 30), (")", .reduce 30), ("*", .reduce 30), ("+", .reduce 30), ("-", .reduce 30), ("/", .reduce 30), (";", .reduce 30), ("<", .reduce 30), (">", .reduce 30), ("DOTADD", .reduce 30), ("DOTDIV", .reduce 30), ("DOTMUL", .reduce 30), ("DOTSUB", .reduce 30), ("EQ", .reduce 30), ("GE", .reduce 30), ("LE", .reduce 30), ("NE", .reduce 30)],
    /- 62 -/ [("-", .shift 23), ("EYE", .shift 31), ("FLOATNUM", .shift 36), ("ID", .shift 30), ("INTNUM", .shift 32), ("ONES", .shift 33), ("STRING", .shift 35), ("ZEROS", .shift 34), ("[", .shift 24)],
    /- 63 -/ [("-", .shift 23), ("EYE", .shift 31), ("FLOATNUM", .shift 36), ("ID", .shift 30), ("INTNUM", .shift 32), ("ONES", .shift 33), ("STRING", .shift 35), ("ZEROS", .shift 34), ("[", .shift 24)],
    /- 64 -/ [("-", .shift 23), ("EYE", .shift 31), ("FLOATNUM", .shift 36), ("ID", .shift 30), ("INTNUM", .shift 32), ("ONES", .shift 33), ("STRING", .shift 35), ("ZEROS", .shift 34), ("[", .shift 24)],
    /- 65 -/ [("-", .shift 23), ("EYE", .shift 31), ("FLOATNUM", .shift 36), ("ID", .shift 30), ("INTNUM", .shift 32), ("ONES", .shift 33), ("STRING", .shift 35), ("ZEROS", .shift 34), ("[", .shift 24)],
    /- 66 -/ [("-", .shift 23), ("EYE", .shift 31), ("FLOATNUM", .shift 36), ("ID", .shift 30), ("INTNUM", .shift 32), ("ONES", .shift 33), ("STRING", .shift 35), ("ZEROS", .shift 34), ("[", .shift 24)],
    /- 67 -/ [("-", .shift 23), ("EYE", .shift 31), ("FLOATNUM", .shift 36), ("ID", .shift 30), ("INTNUM", .shift 32), ("ONES", .shift 33), ("STRING", .shift 35), ("ZEROS", .shift 34), ("[", .shift 24)],
    /- 68 -/ [("'", .shift 61), (")", .reduce 33), ("*", .reduce 33), ("+", .reduce 33), ("-", .reduce 33), ("/", .reduce 33), (";", .reduce 33), ("<", .reduce 33), (">", .reduce 33), ("DOTADD", .reduce 33), ("DOTDIV", .reduce 33), ("DOTMUL", .reduce 33), ("DOTSUB", .reduce 33), ("EQ", .reduce 33), ("GE", .reduce 33), ("LE", .reduce 33), ("NE", .reduce 33)],
    /- 69 -/ [("INTNUM", .shift 72)],
    /- 70 -/ [(",", .shift 110), ("]", .shift 109)],
    /- 71 -/ [(",", .shift 112), ("]", .shift 111)],
    /- 72 -/ [(",", .reduce 62), ("]", .reduce 62)],
    /- 73 -/ [(":", .shift 88), ("ID", .shift 86), ("INTNUM", .shift 90)],
    /- 74 -/ [("INTNUM", .shift 113)],
    /- 75 -/ [("INTNUM", .shift 114)],
    /- 76 -/ [("INTNUM", .shift 115)],
    /- 77 -/ [("$end", .reduce 9), (";", .reduce 9), ("BREAK", .reduce 9), ("CONTINUE", .reduce 9), ("ELSE", .reduce 9), ("FOR", .reduce 9), ("ID", .reduce 9), ("IF", .reduce 9), ("PRINT", .reduce 9), ("RETURN", .reduce 9), ("WHILE", .reduce 9), ("\x7b", .reduce 9), ("\x7d", .reduce 9)],
    /- 78 -/ [("$end", .reduce 17), (";", .reduce 17), ("BREAK", .reduce 17), ("CONTINUE", .reduce 17), ("ELSE", .reduce 17), ("FOR", .reduce 17), ("ID", .reduce 17), ("IF", .reduce 17), ("PRINT", .reduce 17), ("RETURN", .reduce 17), ("WHILE", .reduce 17), ("\x7b", .reduce 17), ("\x7d", .reduce 17)],
    /- 79 -/ [("FLOATNUM", .shift 36), ("ID", .shift 42), ("INTNUM", .shift 32), ("STRING", .shift 35)],
    /- 80 -/ [("'", .shift 61), ("*", .shift 58), ("+", .shift 60), ("-", .shift 59), ("/", .shift 57), (";", .shift 117), ("<", .shift 67), (">", .shift 66), ("DOTADD", .shift 56), ("DOTDIV", .shift 53), ("DOTMUL", .shift 54), ("DOTSUB", .shift 55), ("EQ", .shift 63), ("GE", .shift 64), ("LE", .shift 65), ("NE", .shift 62)],
    /- 81 -/ [("'", .shift 61), ("*", .shift 58), ("+", .shift 60), ("-", .shift 59), ("/", .shift 57), (";", .shift 118), ("<", .shift 67), (">", .shift 66), ("DOTADD", .shift 56), ("DOTDIV", .shift 53), ("DOTMUL", .shift 54), ("DOTSUB", .shift 55), ("EQ", .shift 63), ("GE", .shift 64), ("LE", .shift 65), ("NE", .shift 62)],
    /- 82 -/ [("'", .shift 61), ("*", .shift 58), ("+", .shift 60), ("-", .shift 59), ("/", .shift 57), (";", .shift 119), ("<", .shift 67), (">", .shift 66), ("DOTADD", .shift 56), ("DOTDIV", .shift 53), ("DOTMUL", .shift 54), ("DOTSUB", .shift 55), ("EQ", .shift 63), ("GE", .shift 64), ("LE", .shift 65), ("NE", .shift 62)],
    /- 83 -/ [("'", .shift 61), ("*", .shift 58), ("+", .shift 60), ("-", .shift 59), ("/", .shift 57), (";", .shift 120), ("<", .shift 67), (">", .shift 66), ("DOTADD", .shift 56), ("DOTDIV", .shift 53), ("DOTMUL", .shift 54), ("DOTSUB", .shift 55), ("EQ", .shift 63), ("GE", .shift 64), ("LE", .shift 65), ("NE", .shift 62)],
    /- 84 -/ [("'", .shift 61), ("*", .shift 58), ("+", .shift 60), ("-", .shift 59), ("/", .shift 57), (";", .shift 121), ("<", .shift 67), (">", .shift 66), ("DOTADD", .shift 56), ("DOTDIV", .shift 53), ("DOTMUL", .shift 54), ("DOTSUB", .shift 55), ("EQ", .shift 63), ("GE", .shift 64), ("LE", .shift 65), ("NE", .shift 62)],
    /- 85 -/ [("ID", .shift 86), ("INTNUM", .shift 90)],
    /- 86 -/ [(",", .reduce 21), (":", .reduce 21), (";", .reduce 21), ("BREAK", .reduce 21), ("CONTINUE", .reduce 21), ("FOR", .reduce 21), ("ID", .reduce 21), ("IF", .reduce 21), ("PRINT", .reduce 21), ("RETURN", .reduce 21), ("WHILE", .reduce 21), ("]", .reduce 21), ("\x7b", .reduce 21)],
    /- 87 -/ [(",", .reduce 54), (":", .shift 123), ("]", .reduce 54)],
    /- 88 -/ [("ID", .shift 86), ("INTNUM", .shift 90)],
    /- 89 -/ [(",", .shift 126), ("]", .shift 125)],
    /- 90 -/ [(",", .reduce 20), (":", .reduce 20), (";", .reduce 20), ("BREAK", .reduce 20), ("CONTINUE", .reduce 20), ("FOR", .reduce 20), ("ID", .reduce 20), ("IF", .reduce 20), ("PRINT", .reduce 20), ("RETURN", .reduce 20), ("WHILE", .reduce 20), ("]", .reduce 20), ("\x7b", .reduce 20)],
    /- 91 -/ [("'", .reduce 36), (")", .shift 127), ("*", .reduce 36), ("+", .reduce 36), ("-", .reduce 36), ("/", .reduce 36), ("<", .reduce 36), (">", .reduce 36), ("DOTADD", .reduce 36), ("DOTDIV", .reduce 36), ("DOTMUL", .reduce 36), ("DOTSUB", .reduce 36), ("EQ", .reduce 36), ("GE", .reduce 36), ("LE", .reduce 36), ("NE", .reduce 36)],
    /- 92 -/ [("'", .shift 61), ("*", .shift 58), ("+", .shift 60), ("-", .shift 59), ("/", .shift 57), ("<", .shift 67), (">", .shift 66), ("DOTADD", .shift 56), ("DOTDIV", .shift 53), ("DOTMUL", .shift 54), ("DOTSUB", .shift 55), ("EQ", .shift 63), ("GE", .shift 64), ("LE", .shift 65), ("NE", .shift 62)],
    /- 93 -/ [("'", .reduce 36), (")", .shift 128), ("*", .reduce 36), ("+", .reduce 36), ("-", .reduce 36), ("/", .reduce 36), ("<", .reduce 36), (">", .reduce 36), ("DOTADD", .reduce 36), ("DOTDIV", .reduce 36), ("DOTMUL", .reduce 36), ("DOTSUB", .reduce 36), ("EQ", .reduce 36), ("GE", .reduce 36), ("LE", .reduce 36), ("NE", .reduce 36)],
    /- 94 -/ [("'", .shift 61), (")", .reduce 22), ("*", .reduce 22), ("+", .reduce 22), ("-", .reduce 22), ("/", .reduce 22), (";", .reduce 22), ("<", .reduce 22), (">", .reduce 22), ("DOTADD", .reduce 22), ("DOTDIV", .reduce 22), ("DOTMUL", .reduce 22), ("DOTSUB", .reduce 22), ("EQ", .reduce 22), ("GE", .reduce 22), ("LE", .reduce 22), ("NE", .reduce 22)],
    /- 95 -/ [("'", .shift 61), (")", .reduce 23), ("*", .reduce 23), ("+", .reduce 23), ("-", .reduce 23), ("/", .reduce 23), (";", .reduce 23), ("<", .reduce 23), (">", .reduce 23), ("DOTADD", .reduce 23), ("DOTDIV", .reduce 23), ("DOTMUL", .reduce 23), ("DOTSUB", .reduce 23), ("EQ", .reduce 23), ("GE", .reduce 23), ("LE", .reduce 23), ("NE", .reduce 23)],
    /- 96 -/ [("'", .shift 61), (")", .reduce 24), ("*", .reduce 24), ("+", .reduce 24), ("-", .reduce 24), ("/", .reduce 24), (";", .reduce 24), ("<", .reduce 24), (">", .reduce 24), ("DOTADD", .reduce 24), ("DOTDIV", .shift 53), ("DOTMUL", .shift 54), ("DOTSUB", .reduce 24), ("EQ", .reduce 24), ("GE", .reduce 24), ("LE", .reduce 24), ("NE", .reduce 24)],
    /- 97 -/ [("'", .shift 61), (")", .reduce 25), ("*", .reduce 25), ("+", .reduce 25), ("-", .reduce 25), ("/", .reduce 25), (";", .reduce 25), ("<", .reduce 25), (">", .reduce 25), ("DOTADD", .reduce 25), ("DOTDIV", .shift 53), ("DOTMUL", .shift 54), ("DOTSUB", .reduce 25), ("EQ", .reduce 25), ("GE", .reduce 25), ("LE", .reduce 25), ("NE", .reduce 25)],
    /- 98 -/ [("'", .shift 61), (")", .reduce 26), ("*", .reduce 26), ("+", .reduce 26), ("-", .reduce 26), ("/", .reduce 26), (";", .reduce 26), ("<", .reduce 26), (">", .reduce 26), ("DOTADD", .shift 56), ("DOTDIV", .shift 53), ("DOTMUL", .shift 54), ("DOTSUB", .shift 55), ("EQ", .reduce 26), ("GE", .reduce 26), ("LE", .reduce 26), ("NE", .reduce 26)],
    /- 99 -/ [("'", .shift 61), (")", .reduce 27), ("*", .reduce 27), ("+", .reduce 27), ("-", .reduce 27), ("/", .reduce 27), (";", .reduce 27), ("<", .reduce 27), (">", .reduce 27), ("DOTADD", .shift 56), ("DOTDIV", .shift 53), ("DOTMUL", .shift 54), ("DOTSUB", .shift 55), ("EQ", .reduce 27), ("GE", .reduce 27), ("LE", .reduce 27), ("NE", .reduce 27)],
    /- 100 -/ [("'", .shift 61), (")", .reduce 28), ("*", .shift 58), ("+", .reduce 28), ("-", .reduce 28), ("/", .shift 57), (";", .reduce 28), ("<", .reduce 28), (">", .reduce 28), ("DOTADD", .shift 56), ("DOTDIV", .shift 53), ("DOTMUL", .shift 54), ("DOTSUB", .shift 55), ("EQ", .reduce 28), ("GE", .reduce 28), ("LE", .reduce 28), ("NE", .reduce 28)],
    /- 101 -/ [("'", .shift 61), (")", .reduce 29), ("*", .shift 58), ("+", .reduce 29), ("-", .reduce 29), ("/", .shift 57), (";", .reduce 29), ("<", .reduce 29), (">", .reduce 29), ("DOTADD", .shift 56), ("DOTDIV", .shift 53), ("DOTMUL", .shift 54), ("DOTSUB", .shift 55), ("EQ", .reduce 29), ("GE", .reduce 29), ("LE", .reduce 29), ("NE", .reduce 29)],
    /- 102 -/ [("'", .shift 61), (")", .reduce 44), ("*", .shift 58), ("+", .shift 60), ("-", .shift 59), ("/", .shift 57), (";", .reduce 44), ("<", .blocked), (">", .blocked), ("DOTADD", .shift 56), ("DOTDIV", .shift 53), ("DOTMUL", .shift 54), ("DOTSUB", .shift 55), ("EQ", .blocked), ("GE", .blocked), ("LE", .blocked), ("NE", .blocked)],
    /- 103 -/ [("'", .shift 61), (")", .reduce 45), ("*", .shift 58), ("+", .shift 60), ("-", .shift 59), ("/", .shift 57), (";", .reduce 45), ("<", .blocked), (">", .blocked), ("DOTADD", .shift 56), ("DOTDIV", .shift 53), ("DOTMUL", .shift 54), ("DOTSUB", .shift 55), ("EQ", .blocked), ("GE", .blocked), ("LE", .blocked), ("NE", .blocked)],
    /- 104 -/ [("'", .shift 61), (")", .reduce 46), ("*", .shift 58), ("+", .shift 60), ("-", .shift 59), ("/", .shift 57), (";", .reduce 46), ("<", .blocked), (">", .blocked), ("DOTADD", .shift 56), ("DOTDIV", .shift 53), ("DOTMUL", .shift 54), ("DOTSUB", .shift 55), ("EQ", .blocked), ("GE", .blocked), ("LE", .blocked), ("NE", .blocked)],
    /- 105 -/ [("'", .shift 61), (")", .reduce 47), ("*", .shift 58), ("+", .shift 60), ("-", .shift 59), ("/", .shift 57), (";", .reduce 47), ("<", .blocked), (">", .blocked), ("DOTADD", .shift 56), ("DOTDIV", .shift 53), ("DOTMUL", .shift 54), ("DOTSUB", .shift 55), ("EQ", .blocked), ("GE", .blocked), ("LE", .blocked), ("NE", .blocked)],
    /- 106 -/ [("'", .shift 61), (")", .reduce 48), ("*", .shift 58), ("+", .shift 60), ("-", .shift 59), ("/", .shift 57), (";", .reduce 48), ("<", .blocked), (">", .blocked), ("DOTADD", .shift 56), ("DOTDIV", .shift 53), ("DOTMUL", .shift 54), ("DOTSUB", .shift 55), ("EQ", .blocked), ("GE", .blocked), ("LE", .blocked), ("NE", .blocked)],
    /- 107 -/ [("'", .shift 61), (")", .reduce 49), ("*", .shift 58), ("+", .shift 60), ("-", .shift 59), ("/", .shift 57), (";", .reduce 49), ("<", .blocked), (">", .blocked), ("DOTADD", .shift 56), ("DOTDIV", .shift 53), ("DOTMUL", .shift 54), ("DOTSUB", .shift 55), ("EQ", .blocked), ("GE", .blocked), ("LE", .blocked), ("NE", .blocked)],
    /- 108 -/ [(",", .shift 110), ("]", .shift 129)],
    /- 109 -/ [("'", .reduce 31), (")", .reduce 31), ("*", .reduce 31), ("+", .reduce 31), ("-", .reduce 31), ("/", .reduce 31), (";", .reduce 31), ("<", .reduce 31), (">", .reduce 31), ("DOTADD", .reduce 31), ("DOTDIV", .reduce 31), ("DOTMUL", .reduce 31), ("DOTSUB", .reduce 31), ("EQ", .reduce 31), ("GE", .reduce 31), ("LE", .reduce 31), ("NE", .reduce 31)],
    /- 110 -/ [("INTNUM", .shift 130)],
    /- 111 -/ [("'", .reduce 32), (")", .reduce 32), ("*", .reduce 32), ("+", .reduce 32), ("-", .reduce 32), ("/", .reduce 32), (";", .reduce 32), ("<", .reduce 32), (">", .reduce 32), ("DOTADD", .reduce 32), ("DOTDIV", .reduce 32), ("DOTMUL", .reduce 32), ("DOTSUB", .reduce 32), ("EQ", .reduce 32), ("GE", .reduce 32), ("LE", .reduce 32), ("NE", .reduce 32)],
    /- 112 -/ [("[", .shift 131)],
    /- 113 -/ [(")", .shift 132)],
    /- 114 -/ [(")", .shift 133)],
    /- 115 -/ [(")", .shift 134)],
    /- 116 -/ [(",", .reduce 19), (";", .reduce 19)],
    /- 117 -/ [("$end", .reduce 39), ("'", .reduce 39), (")", .reduce 39), ("*", .reduce 39), ("+", .reduce 39), ("-", .reduce 39), ("/", .reduce 39), (";", .reduce 39), ("<", .reduce 39), (">", .reduce 39), ("BREAK", .reduce 39), ("CONTINUE", .reduce 39), ("DOTADD", .reduce 39), ("DOTDIV", .reduce 39), ("DOTMUL", .reduce 39), ("DOTSUB", .reduce 39), ("ELSE", .reduce 39), ("EQ", .reduce 39), ("FOR", .reduce 39), ("GE", .reduce 39), ("ID", .reduce 39), ("IF", .reduce 39), ("LE", .reduce 39), ("NE", .reduce 39), ("PRINT", .reduce 39), ("RETURN", .reduce 39), ("WHILE", .reduce 39), ("\x7b", .reduce 39), ("\x7d", .reduce 39)],
    /- 118 -/ [("$end", .reduce 40), ("'", .reduce 40), (")", .reduce 40), ("*", .reduce 40), ("+", .reduce 40), ("-", .reduce 40), ("/", .reduce 40), (";", .reduce 40), ("<", .reduce 40), (">", .reduce 40), ("BREAK", .reduce 40), ("CONTINUE", .reduce 40), ("DOTADD", .reduce 40), ("DOTDIV", .reduce 40), ("DOTMUL", .reduce 40), ("DOTSUB", .reduce 40), ("ELSE", .reduce 40), ("EQ", .reduce 40), ("FOR", .reduce 40), ("GE", .reduce 40), ("ID", .reduce 40), ("IF", .reduce 40), ("LE", .reduce 40), ("NE", .reduce 40), ("PRINT", .reduce 40), ("RETURN", .reduce 40), ("WHILE", .reduce 40), ("\x7b", .reduce 40), ("\x7d", .reduce 40)],
    /- 119 -/ [("$end", .reduce 41), ("'", .reduce 41), (")", .reduce 41), ("*", .reduce 41), ("+", .reduce 41), ("-", .reduce 41), ("/", .reduce 41), (";", .reduce 41), ("<", .reduce 41), (">", .reduce 41), ("BREAK", .reduce 41), ("CONTINUE", .reduce 41), ("DOTADD", .reduce 41), ("DOTDIV", .reduce 41), ("DOTMUL", .reduce 41), ("DOTSUB", .reduce 41), ("ELSE", .reduce 41), ("EQ", .reduce 41), ("FOR", .reduce 41), ("GE", .reduce 41), ("ID", .reduce 41), ("IF", .reduce 41), ("LE", .reduce 41), ("NE", .reduce 41), ("PRINT", .reduce 41), ("RETURN", .reduce 41), ("WHILE", .reduce 41), ("\x7b", .reduce 41), ("\x7d", .reduce 41)],
    /- 120 -/ [("$end", .reduce 42), ("'", .reduce 42), (")", .reduce 42), ("*", .reduce 42), ("+", .reduce 42), ("-", .reduce 42), ("/", .reduce 42), (";", .reduce 42), ("<", .reduce 42), (">", .reduce 42), ("BREAK", .reduce 42), ("CONTINUE", .reduce 42), ("DOTADD", .reduce 42), ("DOTDIV", .reduce 42), ("DOTMUL", .reduce 42), ("DOTSUB", .reduce 42), ("ELSE", .reduce 42), ("EQ", .reduce 42), ("FOR", .reduce 42), ("GE", .reduce 42), ("ID", .reduce 42), ("IF", .reduce 42), ("LE", .reduce 42), ("NE", .reduce 42), ("PRINT", .reduce 42), ("RETURN", .reduce 42), ("WHILE", .reduce 42), ("\x7b", .reduce 42), ("\x7d", .reduce 42)],
    /- 121 -/ [("$end", .reduce 43), ("'", .reduce 43), (")", .reduce 43), ("*", .reduce 43), ("+", .reduce 43), ("-", .reduce 43), ("/", .reduce 43), (";", .reduce 43), ("<", .reduce 43), (">", .reduce 43), ("BREAK", .reduce 43), ("CONTINUE", .reduce 43), ("DOTADD", .reduce 43), ("DOTDIV", .reduce 43), ("DOTMUL", .reduce 43), ("DOTSUB", .reduce 43), ("ELSE", .reduce 43), ("EQ", .reduce 43), ("FOR", .reduce 43), ("GE", .reduce 43), ("ID", .reduce 43), ("IF", .reduce 43), ("LE", .reduce 43), ("NE", .reduce 43), ("PRINT", .reduce 43), ("RETURN", .reduce 43), ("WHILE", .reduce 43), ("\x7b", .reduce 43), ("\x7d", .reduce 43)],
    /- 122 -/ [(":", .shift 135)],
    /- 123 -/ [("ID", .shift 86), ("INTNUM", .shift 90), ("]", .shift 137)],
    /- 124 -/ [("]", .shift 138)],
    /- 125 -/ [("'", .reduce 53), (")", .reduce 53), ("*", .reduce 53), ("+", .reduce 53), ("-", .reduce 53), ("/", .reduce 53), (";", .reduce 53), ("<", .reduce 53), ("=", .reduce 53), (">", .reduce 53), ("ADDASSIGN", .reduce 53), ("DIVASSIGN", .reduce 53), ("DOTADD", .reduce 53), ("DOTDIV", .reduce 53), ("DOTMUL", .reduce 53), ("DOTSUB", .reduce 53), ("EQ", .reduce 53), ("GE", .reduce 53), ("LE", .reduce 53), ("MULASSIGN", .reduce 53), ("NE", .reduce 53), ("SUBASSIGN", .reduce 53)],
    /- 126 -/ [("ID", .shift 86), ("INTNUM", .shift 90)],
    /- 127 -/ [(";", .shift 4), ("BREAK", .shift 12), ("CONTINUE", .shift 11), ("FOR", .shift 15), ("ID", .shift 16), ("IF", .shift 18), ("PRINT", .shift 13), ("RETURN", .shift 3), ("WHILE", .shift 17), ("\x7b", .shift 10)],
    /- 128 -/ [(";", .shift 4), ("BREAK", .shift 12), ("CONTINUE", .shift 11), ("FOR", .shift 15), ("ID", .shift 16), ("IF", .shift 18), ("PRINT", .shift 13), ("RETURN", .shift 3), ("WHILE", .shift 17), ("\x7b", .shift 10)],
    /- 129 -/ [(",", .reduce 60), ("]", .reduce 60)],
    /- 130 -/ [(",", .reduce 61), ("]", .reduce 61)],
    /- 131 -/ [("INTNUM", .shift 72)],
    /- 132 -/ [("'", .reduce 63), (")", .reduce 63), ("*", .reduce 63), ("+", .reduce 63), ("-", .reduce 63), ("/", .reduce 63), (";", .reduce 63), ("<", .reduce 63), (">", .reduce 63), ("DOTADD", .reduce 63), ("DOTDIV", .reduce 63), ("DOTMUL", .reduce 63), ("DOTSUB", .reduce 63), ("EQ", .reduce 63), ("GE", .reduce 63), ("LE", .reduce 63), ("NE", .reduce 63)],
    /- 133 -/ [("'", .reduce 64), (")", .reduce 64), ("*", .reduce 64), ("+", .reduce 64), ("-", .reduce 64), ("/", .reduce 64), (";", .reduce 64), ("<", .reduce 64), (">", .reduce 64), ("DOTADD", .reduce 64), ("DOTDIV", .reduce 64), ("DOTMUL", .reduce 64), ("DOTSUB", .reduce 64), ("EQ", .reduce 64), ("GE", .reduce 64), ("LE", .reduce 64), ("NE", .reduce 64)],
    /- 134 -/ [("'", .reduce 65), (")", .reduce 65), ("*", .reduce 65), ("+", .reduce 65), ("-", .reduce 65), ("/", .reduce 65), (";", .reduce 65), ("<", .reduce 65), (">", .reduce 65), ("DOTADD", .reduce 65), ("DOTDIV", .reduce 65), ("DOTMUL", .reduce 65), ("DOTSUB", .reduce 65), ("EQ", .reduce 65), ("GE", .reduce 65), ("LE", .reduce 65), ("NE", .reduce 65)],
    /- 135 -/ [("ID", .shift 86), ("INTNUM", .shift 90)],
    /- 136 -/ [("]", .shift 144)],
    /- 137 -/ [("=", .reduce 56), ("ADDASSIGN", .reduce 56), ("DIVASSIGN", .reduce 56), ("MULASSIGN", .reduce 56), ("SUBASSIGN", .reduce 56)],
    /- 138 -/ [("=", .reduce 57), ("ADDASSIGN", .reduce 57), ("DIVASSIGN", .reduce 57), ("MULASSIGN", .reduce 57), ("SUBASSIGN", .reduce 57)],
    /- 139 -/ [(",", .reduce 55), ("]", .reduce 55)],
    /- 140 -/ [("$end", .reduce 15), (";", .reduce 15), ("BREAK", .reduce 15), ("CONTINUE", .reduce 15), ("ELSE", .reduce 15), ("FOR", .reduce 15), ("ID", .reduce 15), ("IF", .reduce 15), ("PRINT", .reduce 15), ("RETURN", .reduce 15), ("WHILE", .reduce 15), ("\x7b", .reduce 15), ("\x7d", .reduce 15)],
    /- 141 -/ [("$end", .reduce 13), (";", .reduce 13), ("BREAK", .reduce 13), ("CONTINUE", .reduce 13), ("ELSE", .shift 145), ("FOR", .reduce 13), ("ID", .reduce 13), ("IF", .reduce 13), ("PRINT", .reduce 13), ("RETURN", .reduce 13), ("WHILE", .reduce 13), ("\x7b", .reduce 13), ("\x7d", .reduce 13)],
    /- 142 -/ [(",", .shift 110), ("]", .shift 146)],
    /- 143 -/ [(";", .shift 4), ("BREAK", .shift 12), ("CONTINUE", .shift 11), ("FOR", .shift 15), ("ID", .shift 16), ("IF", .shift 18), ("PRINT", .shift 13), ("RETURN", .shift 3), ("WHILE", .shift 17), ("\x7b", .shift 10)],
    /- 144 -/ [("=", .reduce 58), ("ADDASSIGN", .reduce 58), ("DIVASSIGN", .reduce 58), ("MULASSIGN", .reduce 58), ("SUBASSIGN", .reduce 58)],
    /- 145 -/ [(";", .shift 4), ("BREAK", .shift 12), ("CONTINUE", .shift 11), ("FOR", .shift 15), ("ID", .shift 16), ("IF", .shift 18), ("PRINT", .shift 13), ("RETURN", .shift 3), ("WHILE", .shift 17), ("\x7b", .shift 10)],
    /- 146 -/ [(",", .reduce 59), ("]", .reduce 59)],
    /- 147 -/ [("$end", .reduce 16), (";", .reduce 16), ("BREAK", .reduce 16), ("CONTINUE", .reduce 16), ("ELSE", .reduce 16), ("FOR", .reduce 16), ("ID", .reduce 16), ("IF", .reduce 16), ("PRINT", .reduce 16), ("RETURN", .reduce 16), ("WHILE", .reduce 16), ("\x7b", .reduce 16), ("\x7d", .reduce 16)],
    /- 148 -/ [("$end", .reduce 14), (";", .reduce 14), ("BREAK", .reduce 14), ("CONTINUE", .reduce 14), ("ELSE", .reduce 14), ("FOR", .reduce 14), ("ID", .reduce 14), ("IF", .reduce 14), ("PRINT", .reduce 14), ("RETURN", .reduce 14), ("WHILE", .reduce 14), ("\x7b", .reduce 14), ("\x7d", .reduce 14)]]
  goto := #[
    /- 0 -/ [("assign_expression", 6), ("for_statement", 7), ("id_ref", 14), ("if_statement", 9), ("matrix_ref", 20), ("print_statement", 5), ("statement", 2), ("statements", 1), ("tab_ref", 19), ("while_statement", 8)],
    /- 1 -/ [("assign_expression", 6), ("for_statement", 7), ("id_ref", 14), ("if_statement", 9), ("matrix_ref", 20), ("print_statement", 5), ("statement", 21), ("tab_ref", 19), ("while_statement", 8)],
    /- 2 -/ [],
    /- 3 -/ [("assign_expression", 28), ("expression", 22), ("id_ref", 14), ("matrix_funcs", 26), ("matrix_ref", 25), ("relation_expression", 27), ("tab_ref", 19), ("value", 29)],
    /- 4 -/ [],
    /- 5 -/ [],
    /- 6 -/ [],
    /- 7 -/ [],
    /- 8 -/ [],
    /- 9 -/ [],
    /- 10 -/ [("assign_expression", 6), ("for_statement", 7), ("id_ref", 14), ("if_statement", 9), ("matrix_ref", 20), ("print_statement", 5), ("statement", 2), ("statements", 37), ("tab_ref", 19), ("while_statement", 8)],
    /- 11 -/ [],
    /- 12 -/ [],
    /- 13 -/ [("print_recursive", 40), ("value", 41)],
    /- 14 -/ [],
    /- 15 -/ [],
    /- 16 -/ [],
    /- 17 -/ [],
    /- 18 -/ [],
    /- 19 -/ [],
    /- 20 -/ [],
    /- 21 -/ [],
    /- 22 -/ [],
    /- 23 -/ [("assign_expression", 28), ("expression", 68), ("id_ref", 14), ("matrix_funcs", 26), ("matrix_ref", 25), ("relation_expression", 27), ("tab_ref", 19), ("value", 29)],
    /- 24 -/ [("line_of_num", 70), ("matrix_rows", 71)],
    /- 25 -/ [],
    /- 26 -/ [],
    /- 27 -/ [],
    /- 28 -/ [],
    /- 29 -/ [],
    /- 30 -/ [],
    /- 31 -/ [],
    /- 32 -/ [],
    /- 33 -/ [],
    /- 34 -/ [],
    /- 35 -/ [],
    /- 36 -/ [],
    /- 37 -/ [("assign_expression", 6), ("for_statement", 7), ("id_ref", 14), ("if_statement", 9), ("matrix_ref", 20), ("print_statement", 5), ("statement", 21), ("tab_ref", 19), ("while_statement", 8)],
    /- 38 -/ [],
    /- 39 -/ [],
    /- 40 -/ [],
    /- 41 -/ [],
    /- 42 -/ [],
    /- 43 -/ [("assign_expression", 28), ("expression", 80), ("id_ref", 14), ("matrix_funcs", 26), ("matrix_ref", 25), ("relation_expression", 27), ("tab_ref", 19), ("value", 29)],
    /- 44 -/ [("assign_expression", 28), ("expression", 81), ("id_ref", 14), ("matrix_funcs", 26), ("matrix_ref", 25), ("relation_expression", 27), ("tab_ref", 19), ("value", 29)],
    /- 45 -/ [("assign_expression", 28), ("expression", 82), ("id_ref", 14), ("matrix_funcs", 26), ("matrix_ref", 25), ("relation_expression", 27), ("tab_ref", 19), ("value", 29)],
    /- 46 -/ [("assign_expression", 28), ("expression", 83), ("id_ref", 14), ("matrix_funcs", 26), ("matrix_ref", 25), ("relation_expression", 27), ("tab_ref", 19), ("value", 29)],
    /- 47 -/ [("assign_expression", 28), ("expression", 84), ("id_ref", 14), ("matrix_funcs", 26), ("matrix_ref", 25), ("relation_expression", 27), ("tab_ref", 19), ("value", 29)],
    /- 48 -/ [],
    /- 49 -/ [("id_int", 87), ("index_list", 89)],
    /- 50 -/ [("assign_expression", 28), ("expression", 92), ("id_ref", 14), ("matrix_funcs", 26), ("matrix_ref", 25), ("relation_expression", 91), ("tab_ref", 19), ("value", 29)],
    /- 51 -/ [("assign_expression", 28), ("expression", 92), ("id_ref", 14), ("matrix_funcs", 26), ("matrix_ref", 25), ("relation_expression", 93), ("tab_ref", 19), ("value", 29)],
    /- 52 -/ [],
    /- 53 -/ [("assign_expression", 28), ("expression", 94), ("id_ref", 14), ("matrix_funcs", 26), ("matrix_ref", 25), ("relation_expression", 27), ("tab_ref", 19), ("value", 29)],
    /- 54 -/ [("assign_expression", 28), ("expression", 95), ("id_ref", 14), ("matrix_funcs", 26), ("matrix_ref", 25), ("relation_expression", 27), ("tab_ref", 19), ("value", 29)],
    /- 55 -/ [("assign_expression", 28), ("expression", 96), ("id_ref", 14), ("matrix_funcs", 26), ("matrix_ref", 25), ("relation_expression", 27), ("tab_ref", 19), ("value", 29)],
    /- 56 -/ [("assign_expression", 28), ("expression", 97), ("id_ref", 14), ("matrix_funcs", 26), ("matrix_ref", 25), ("relation_expression", 27), ("tab_ref", 19), ("value", 29)],
    /- 57 -/ [("assign_expression", 28), ("expression", 98), ("id_ref", 14), ("matrix_funcs", 26), ("matrix_ref", 25), ("relation_expression", 27), ("tab_ref", 19), ("value", 29)],
    /- 58 -/ [("assign_expression", 28), ("expression", 99), ("id_ref", 14), ("matrix_funcs", 26), ("matrix_ref", 25), ("relation_expression", 27), ("tab_ref", 19), ("value", 29)],
    /- 59 -/ [("assign_expression", 28), ("expression", 100), ("id_ref", 14), ("matrix_funcs", 26), ("matrix_ref", 25), ("relation_expression", 27), ("tab_ref", 19), ("value", 29)],
    /- 60 -/ [("assign_expression", 28), ("expression", 101), ("id_ref", 14), ("matrix_funcs", 26), ("matrix_ref", 25), ("relation_expression", 27), ("tab_ref", 19), ("value", 29)],
    /- 61 -/ [],
    /- 62 -/ [("assign_expression", 28), ("expression", 102), ("id_ref", 14), ("matrix_funcs", 26), ("matrix_ref", 25), ("relation_expression", 27), ("tab_ref", 19), ("value", 29)],
    /- 63 -/ [("assign_expression", 28), ("expression", 103), ("id_ref", 14), ("matrix_funcs", 26), ("matrix_ref", 25), ("relation_expression", 27), ("tab_ref", 19), ("value", 29)],
    /- 64 -/ [("assign_expression", 28), ("expression", 104), ("id_ref", 14), ("matrix_funcs", 26), ("matrix_ref", 25), ("relation_expression", 27), ("tab_ref", 19), ("value", 29)],
    /- 65 -/ [("assign_expression", 28), ("expression", 105), ("id_ref", 14), ("matrix_funcs", 26), ("matrix_ref", 25), ("relation_expression", 27), ("tab_ref", 19), ("value", 29)],
    /- 66 -/ [("assign_expression", 28), ("expression", 106), ("id_ref", 14), ("matrix_funcs", 26), ("matrix_ref", 25), ("relation_expression", 27), ("tab_ref", 19), ("value", 29)],
    /- 67 -/ [("assign_expression", 28), ("expression", 107), ("id_ref", 14), ("matrix_funcs", 26), ("matrix_ref", 25), ("relation_expression", 27), ("tab_ref", 19), ("value", 29)],
    /- 68 -/ [],
    /- 69 -/ [("line_of_num", 108)],
    /- 70 -/ [],
    /- 71 -/ [],
    /- 72 -/ [],
    /- 73 -/ [("id_int", 87), ("index_list", 89)],
    /- 74 -/ [],
    /- 75 -/ [],
    /- 76 -/ [],
    /- 77 -/ [],
    /- 78 -/ [],
    /- 79 -/ [("value", 116)],
    /- 80 -/ [],
    /- 81 -/ [],
    /- 82 -/ [],
    /- 83 -/ [],
    /- 84 -/ [],
    /- 85 -/ [("id_int", 122)],
    /- 86 -/ [],
    /- 87 -/ [],
    /- 88 -/ [("id_int", 124)],
    /- 89 -/ [],
    /- 90 -/ [],
    /- 91 -/ [],
    /- 92 -/ [],
    /- 93 -/ [],
    /- 94 -/ [],
    /- 95 -/ [],
    /- 96 -/ [],
    /- 97 -/ [],
    /- 98 -/ [],
    /- 99 -/ [],
    /- 100 -/ [],
    /- 101 -/ [],
    /- 102 -/ [],
    /- 103 -/ [],
    /- 104 -/ [],
    /- 105 -/ [],
    /- 106 -/ [],
    /- 107 -/ [],
    /- 108 -/ [],
    /- 109 -/ [],
    /- 110 -/ [],
    /- 111 -/ [],
    /- 112 -/ [],
    /- 113 -/ [],
    /- 114 -/ [],
    /- 115 -/ [],
    /- 116 -/ [],
    /- 117 -/ [],
    /- 118 -/ [],
    /- 119 -/ [],
    /- 120 -/ [],
    /- 121 -/ [],
    /- 122 -/ [],
    /- 123 -/ [("id_int", 136)],
    /- 124 -/ [],
    /- 125 -/ [],
    /- 126 -/ [("id_int", 139)],
    /- 127 -/ [("assign_expression", 6), ("for_statement", 7), ("id_ref", 14), ("if_statement", 9), ("matrix_ref", 20), ("print_statement", 5), ("statement", 140), ("tab_ref", 19), ("while_statement", 8)],
    /- 128 -/ [("assign_expression", 6), ("for_statement", 7), ("id_ref", 14), ("if_statement", 9), ("matrix_ref", 20), ("print_statement", 5), ("statement", 141), ("tab_ref", 19), ("while_statement", 8)],
    /- 129 -/ [],
    /- 130 -/ [],
    /- 131 -/ [("line_of_num", 142)],
    /- 132 -/ [],
    /- 133 -/ [],
    /- 134 -/ [],
    /- 135 -/ [("id_int", 143)],
    /- 136 -/ [],
    /- 137 -/ [],
    /- 138 -/ [],
    /- 139 -/ [],
    /- 140 -/ [],
    /- 141 -/ [],
    /- 142 -/ [],
    /- 143 -/ [("assign_expression", 6), ("for_statement", 7), ("id_ref", 14), ("if_statement", 9), ("matrix_ref", 20), ("print_statement", 5), ("statement", 147), ("tab_ref", 19), ("while_statement", 8)],
    /- 144 -/ [],
    /- 145 -/ [("assign_expression", 6), ("for_statement", 7), ("id_ref", 14), ("if_statement", 9), ("matrix_ref", 20), ("print_statement", 5), ("statement", 148), ("tab_ref", 19), ("while_statement", 8)],
    /- 146 -/ [],
    /- 147 -/ [],
    /- 148 -/ []]

end MatrixLang.Annotated
