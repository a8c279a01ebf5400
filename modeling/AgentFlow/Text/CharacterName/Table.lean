import AgentFlow.Text.Archive

/-!
# Names of characters

First come frequent words; further on, characters beyond ASCII stand for them.  After a bar follow
the names of the standard in the order of their code points, each told by how it differs from the
name before, and after another bar the further names.
-/

namespace AgentFlow.CharacterName

def table : Archive := ⟨213001, "
 XvH1z?zObb#]YbpSM;b[O!lXt:U!'$!mY|LI*7taiqC@st8RC^;LDAiXT>QS2~=(O~_%xU6Ou9Y:INo@nT^HZ];s.yyFiWfqv4b
 '':|@7i0S'['ZGK!*1^AghB*>G7K#9.IaVbDfvBaz!xBN#d+w37)BA&Vn~SMts(BLUhV@H>0C9SU#_)0BCdm=3h(HWyu3s3P5v9
 @EZJ>|7hgn5w5@WbwPYU,2%eh3ZsIKCs;_XV4^y;T3r@ZmK5<z%M#V<mg~pD9%Dxvz.:XT+I~CXOGH<!Y.iQsIk4g+@k(H1bFm8
 !(uD6Q73tem].h)^zgGaqR8l]ArMh)8arir~p&'MotPPl.qPG,4F2W82q[Lm_JIebNQ78p*Eq.WAAajY&,t3jE'xghT~S+3UAm9
 )Sk@JUL=_qH'l0)R^mJnS@Y:j'SA2!zeGIIEJ>ZXl5qPUwYVxFgeW4'JzZ2=Pm==5.9lVQeeQi5h)jP^<,^ojjguFY9Gey&NTvP
 bvhfM<Pt>[koiCqXjkn6Un3>XS:|a#icQNT=7o8;8jwz7y7tkqD^4zm%ijr9~VBHwkcp|IbqbmIb^@@;n0Aebqa1B7_7lI4vZ!M
 95ZsF+oEp@xaf!B3t)v)PH<=*BD,f4g^[~nf~kj5z^'1yV|HgB4z$q8yo(WVE<$3umPc7h#pfaUE@]9u'>_|u3P,,6U_;y**SEs
 ,tJ58IOW;QIT]5a%>TSn.IOFc4nE~=Rz1G~(t<57KQo1%rse.xd.|)[P2P,h?xb2!;p@Hl)94qAKn#?Ps!kJ!!hB#eA4)>.lHa>
 ;jZ,duQtaOuk2IXDBaOV|8=.;#.wE|ns;4dRk!x6|L!iDOXxT;2nyt>AZ:E=#|%3>03!gCyNh8ndG7)Clf).e>Dn.c*mkxBSI)~
 ]xSe;t.o#%aox%'G.yKfp[PL7xw.vFuYp@h13UOY+t6^?:ulJ9Fm5~336~od]!nvyhA*e4*cO=lJAZ!=rT1QZT:6YA#)_cB!;B?
 LJleoUz<M2*csW+l!EqlK(<Hd,PKUvK8:M=QG:D?!&R27[b9|2$L22m.a29Sg7h_w82ez(5cZ|OQHJgc7UrDKObo]5y]oo,4WE)
 e1f^SZ!ef'W3?tT>kjBH7y:2I!pGYCdD:Hs<qR|hlbX7aau6i)'26ECkwb3z#fMe|<W,Ztj*moPI'MB+u:0|~M%>XP@bRS!tzmz
 <1![.=PtJ;RUB_zQ8VDZV<$*%lxe~Gkw2KLn(ydD;Ok([Eaem2aCflkG.u_:s*'3Vs0mKg0)KQMHCRQ:>fGkU+1,FwJIvP)wt<b
 J8WB):!kh,PA<!^h:OIx~:(Lvu>]~Vy8g%21!_&'2&8oJ(_rrgVfd3vO2f+Orv8?:Pov[zBbL~y^kLJ=A1d~DQ&<39I6yQ&kTU=
 Udz<*2p8DeDd9#w+Y3@X$N2_cRd32BE#l3CM%.YV95PjRD.h'6'R^rI!4b]!K(qbptf~Z6ym1wRTJ]ZVZ%!BXt30=s&tmwHz.ai
 6qg7LQ!wR[.j0v(NnR#[si9I8[:Lp^4cA#Ouf2UZtr*q16PTt'3GVd<Bkc$]iCxeXMri#S+hbSOV5p#l<Txe9FYT>TkY]NBtD'M
 Yg5u>xpy(cM5c9%S+hFBNs8de!S,RQ&;k!v~ZTf9TK)tc_veE2uqrhlm+&Oa960=FjJ_!'>1ns7$=,MvCfWs+%pD#|BB~rT_YY5
 |PDANwJS(Gg&IPTNHc3odvt*uS=XzCr%tql+_<Sz9m2cc3PS(K~pDq@uj&:jNj)~f(H@&Fy.B[WZMrwA,LCpqZ;qCN7pD!b^(5#
 E9~ud)K%so5*eymJ~ujt]o+]PY2(n55Gf0Nd01S_iJx,(8fe$K?(3C6l7Cz$3qZ@dpeNBim*vNh;'z1q!^~(Stbq!$^PJt[zvjV
 mIb$]qYyEgL[*X0$2&d%fgj)Z;j#PrZYM&n5.EyNFpju>04t#s+^8uLQ+XK[WN|RCqU:5&5#Ga[Yz$<it57Jc.6X[uz4Nhh0jaa
 EU)?]d7='HiJ~?8XmIW~>u(%UZn@cY=%k~NnBRcyaU4eV!XC|_;Zk!k73#u8XP^;p7XIH_v7P@rG*NaIg|Uy|*]ne+8't+gU<)I
 Y5&SD3=n=;gz=3U!NgR#<,b8v<CcLGB!xdWi?O5I#0.zin1!]b08#F~M>FSAbUVp$dI;fM16&e4<wtKH;<nFDr.z(e[aWsV'?Lw
 doCJv$j]'w@Td<C0X(XCEOCiGJ3itLu1$!GtM.klY7lJj(E^_yXs>F^d>!B7$5[y_]FSnwf',cl'%p3CE41#EzUl=S4pzc(3+hT
 &j91cZMRGX8w#uW%JD:nh:+,&D[9B?x'?1Ht_.[eZ;ePo9W>!h]pANvF#fnEq?]Nas||w7P7%W6L|4g!?A&!(hEChE4'+r2]5^Q
 |)<@aBlFOV3ovYU|rcZ,^k;6TMX>OQcj;E0JL);g%VV7nvr6>k35TDYQSYw5ppS,kgimP>2J|rdAA=%^~,TE8CeaWvYE)'Uv88K
 K@!v|>Rso'P4IFO(&Dm;Utr+28I;gm[5TL'ACQ5,!2R]P0rW?nSaXK^&N:8cI8QsU|GJkxI8J_jB:VkYsXKuO+h5#XCqZ+2PK*j
 TK8D^c3bkG??3iCkmpAlU|kw@5gNP9IqYb$H0?Lf5W:BcWP(fwWqw)5rrcu128bMTy,_W?)=OS1Z~<,n$w?7b!k&hnBO?]>J6#Z
 e~e&hqI3vw>eqoaRLx,V%DdWS?_U544l8S#R;7^|~%#XO8ehdUzw$)$$M>uc65~1NcsgjMU@.J!b.RGwL!q8p:%s;JuL*P&646)
 [A(?ABXj'8H[s$.'DoSqg%hTqZl=8Zh$0WYTLHN>.mA6F)=XEOfVG!^jX[zcuLz2Zid?~X=pk_k*Ak#2<=c%b4~$Zc=^,*:<oGV
 z:C|oPj(g1?4#b(Q^!(LXr,Hfd|CybuVUz+z|7d8vZSjP#)cc97Ap]G*wEk_:QIJV=pbRS$ksc4F[f0@)OGZu<9LH>U8TlOw60A
 PK:y>!]f.mYd2LMv^79zq<P@:[?>$KhaX8<.'4;ALtLkT>Xz[=$Ps%?P_NJf]0CdN+BZq;^FxquW08pR:ksqp7Vbgk^U9%~Lu_X
 GTKT0nu_FHQeZxPQ0|wZ5oTpJNyISCJ.TJumE8P8jO[0cW,7g7Fh8oV%i5NM$H7(HK@L^sLik%+mUS$tdk07|*WVU91:qvhgh:6
 ^>Znq^1[iqkUCv%p7lqf5qS(~%QPdEF@&JP;m@]8T;0+UO;N.^v=NVEMP|Ywirs]SGdn[rF9jsmQin:YL1&SR=1WHR;=F>eF9q&
 ?(gTSE:pl$ex2PVSAz)ZDa,w@@Ti_a?U?3dmD+==++1sB|<?%IHe^[a6MNYjKa)U_l]Omx|YzP>EZR?3kP:[^x+O%4_(P&%n+5x
 oew>Iko(KF*V=&gk4Jvct9D%CtSZ.5yd.yA~a?l0ct%^Bsdi(UnkPvnCs@_Yz>yh]IaxK[N(5#hy'JVK5]>K&$2c>x35,<sl=sa
 =j>Wd><P>M's|<!yqc(75><Y:;:;?&fC_t_ya9KI,xi@HlO0RlKwQXnxXo=J&1UYuQf=VZ*czaWp^$(!BXi+d6rkCB&e*c*Ly'W
 kNgNyat#mub9;2G#dT0#^ma]].IdP&@tUsu&&*HL(xLv1rD;3]grAm#&)8?crG7n:inE?e.NQ=rYK;Zw~l,,nA<!~;7:i!0.:dC
 (us_Pmwe(br~%a;xuBCx)&G6P,R^DzsL0A+^r^OQFq9yz8S[3e?o]w&A|d,qm)LS8d=xYdjHP9@q#:eS7J*]<fKG=qDzD:0t'vW
 9WJO~6?Ilu.JAh*gDd8K>rnpy?&,LFko+,a.,4:>4rt@.yW9pJGX.r<(zK3XQ6p&?$v]TVJ!a8a')=)1CJe<4#jvK9ny]F7!!Np
 B1K&?|yX%T$D*W0:Pa8<t~@$tfb#J|U9:@V;^MDs]!n=KM:HGjQnYJ<Yp*C24)HL$=FRruK07NqvaB!we#I*l'+0E4B%CPQ9K'd
 1~qWN#$T+C(6*c<9y~fA$o+ce.Q9DWOb.K7YHhFM29SeE)kRNdl:cd(+Hfxby[4b%NxoczCGbIYM~(vN?]~W?zd:OJADbht;uSM
 ]7>T.PD>9Fxu=CUR%BZ!QVel&=@]8u&M6LlJWE+C'X@YWPUmp<q;?Cz|mlbJcKm4s>!k#r:,vC?)*$ExAr<mhc4V$ThSdZ1'y~i
 ijWrwA[5xCnu(?(^v0&ojW7m.ZiCHz']aPwJU?nZiI02L>6.;h~42Ml<(ylKAL9XRw7s!9ThH5?NKMbA#JUYnzbuErwD'f+Y85.
 U6<FlhM^2k=V+D[q5N;QwFqB;<Cp%zPFfEJf<mG|+rk<~~Ff.B@vw<7re%c2K;33Z1&s#FMzR~rd=iaDg6TR#2pVLp_DpFZHd%h
 OO>YClKZftse^!lT:>RpapQk&o+0<me4Nm46I%.'=@f.8yF$nxL3FZHg2re<dpZ>eEt:qs_9:^.9t2o@$o2gaX?)wHE[I35B;oF
 =1Q*09lV_qZ1?3VWUW*wFi&5u!*y;_TfN5rnr$HQ+b=X]8kFj=~^1N(o*;qBw4Y7J24TW,GsV.Y%%6:<NS&o@@L((|D39yi>FMJ
 Lm7g:_;se05SM>K%d)t217@=u92pBp[P0tWE'5Nn,o2UHj!^pb,s_sCNGm~VCHZ&Xx=#3IN#g9*o]D(2p,ei6]<<(8:BzZ0Z1Vc
 Ao,b(_65.m[j$tlH<]onurtO]zF#Qyx$&wjrQ[k.?Jx0aEFvle;Rx$H%wjQTRtxG+P@eoeqz?eR0u;8Hu#$jsT:UGA#1f<<!sG'
 c1YxU9WfVOVEaU5~1<B.p[ul)SnM*a^Pmm7=^|%Pnmqrn(FgSpy5I^20=aai#cO$?Y$J@(OsrgB+2yO2$FCTN3^z>]f^?+Ak8g*
 htiC1kFpKF8aUK)6CV;!6!FB5?@[.!DFZ=u'beJCtKG8nQp,i7)sObM+Ae:5!Y>6#j4|$@;2|IHrmZ1r~P^=NE<&ybF7RDCf0jV
 :Q%lHOy;BXYKMHurTELfJcKP(!wK<NJnBdUzb0b%[7!hVV<nOP7MEvbQ[KS%C3W?9@R>om;Psa#2$3xEeTgVDhM0QRn!~Ug>u2X
 Sxx|_%Y$+vSH5@u%o2[w614^,f3<OQ5d9X)^DVFD7*up1haT]d|a*F!*H'+d_VoZR4.R2UvmTO_Nk0UOy0p~z'#.z'p[dJh(@8h
 *PAIrD*f.W1>yLY'^ZAYTj)CKc#VU4)C>%Dm.WsWaNi%yocA]ENZ*$v)#g~FiO0_OLg*5#D:0XRjC4dnK%9n,&^d1IWN.Fx~'v)
 .k=:j*3Io*BuNW]@saw^W2YK&Q9mA@Qf7.ZNVlx_xKjre;.50rX_We9Lra+@qMv=xI%2py]Sx+C,Ff.34[q*7;bvDTYl8R)JsH.
 M;_*(2p'mWc%JCYQCh'J#|rKC3h)C[$q[0N**trK8mjwaN9J:UrF9Q|$GYX%<2j&FqK01KQ[yRD*r@.V]ZmIJ%!jQ*w&+6?=&y7
 7yP12e$kV_#.y$LKurGeK#fP,F@,dd=iYhFRz&J$k_Z<TwZHGzMCMq:mjI'DTk8PQ=I]Y8$YWz26y_K+we21JN7SPJSV3u'4[x*
 ADV:IF!>AFPs:,9uGA.P#c6qxz^ziCafPw!oMeFpClCREL6GKsm??Zgb<BLCyWD75=~oW6:7H%_l<QkY4!&6%V8Qm;wRif&ayh5
 OT|h1)zVSv74;5nHcRJ?=RC[tToGS_jwCc@([.V|'4#G&Ec,sMfi9v<M[dv9me$jjraBe~ZFNY[8Jp9COV~qcphv0>5dwAKb7.o
 ;5_|@#vwF:8e.[q>X4L[IQGnv'V#rBhL+hg<uK_16r*v8.#&up'Kcu|XYa?GWIkvJIl~R%|2&U.3a7:XRvT18:[!dXIWT(L^v,H
 XimA1&HgAwDcIz,!YCXLuB<?(%ffQ;wYeaTN3DhDjjlAiAz!.a6J6Y[2S43v3*c+TJ?Z!DAF$K0Ac)(|5Mi))f]>CKy8xk[1:wk
 0Zj^d#@4<c+'eecV^~y':.JTo#6Fe(0A*h!]#Zw.ZGijWUA.<]m]QRXwPrSy@7c3Fy@jrd2pFayaH,?m+49#ND7[tL<N0O6by8d
 _lPrN=~??^Wg8bA#HH~*)V<Z@GFX*?V?A+$tk><h_Ig0<v55%>*34lLj%r2w&Uv([;CVGT_Xh+R9~rZEm|zea~NbRDr$LP5>J5l
 THeDaI5ks~yMZCg]N8pPAA>W'h%Be>s*ybSxHGz:Gb3TY#aAalq|6|s1)8:_S:'mjWaR!&rCm>k[:j!c&)XR)#X!7?^HkW*lw;0
 c?xP?E!h$@71&Be)gyBs]jj7=)RNo!3h1,BE6o3dh]2>5,WQI$S'F9$BQxUm^7SAc'z9O~2=W#87Pmf8UE9:o$*TP?sCy+);vXq
 3]@nFht(WPHJaFn@6XMOrsl43zR3K]yEZAX.D1PwR&j[[(2ITD1mesR&qgAzEapY;26b,|gLv2?ClYQncv7ymilTZr&Hx>pNg1)
 OT9_@pU@)A*p&Th>.U>2:vHzvptihmI!&_[$&Aj>v3bwO0NfXv[IVsgN[9VqvVT+Ec4J#5I9J!#BHc:org[P.^8~CVy|q9X$1K(
 ;m<cSHFGF(Q8ibpj>Mj&W$Twk;Y2Sc)zEW!Hq[0$P&K)C.H.pKsp7m:%lpTh@2fpp|)z+LV@L#nEDK?CuMG^7r_<82o^UGDd;!:
 v:Jg#2>,zy_a1gFZwAoee|[WN3VS!C;Gj&>l:]sibm](SI1Tx^qwSSZ&_=58KVWy<Qo%!~O.>;^FDrCftz$$*:%KTT0?nk'VRfh
 Q[_HFfSTYpodhD[>~SEf1lTRfgNOo4gW$m!rF~y$lI_E=?bDN*;kEMXrbl%18fEPK@D+1@xd[o.OYUK*T,0Ef1u*.:PqaUI9+>o
 '@.hp@9C9p>&&~p9W~CxGIST'xp1zZZ,e96m|_5CC8cug<YYReogsY@yhk)'i*yin]9WOFNh9Cl1&bzv(2DEI5$4;.L(?H.g9:#
 k^&#Na^j*7OLgpz37:]rit9Z8!q]'uGZPE~Pqo(7enX>n,9x*efF0NXG]td&Z8UoUN&#d4,22q9i[roYdM7Rv:9Tjn7x(0(2XfW
 O54~[:Z?uw(#ap6s55C.iWc1umb3?=!dVCrTZJ,9gkELF@F:r+ieY@vI:ADU>8D$A4DrRr5EZc8IHIOE*lEX<dou<&8#_ah#%hW
 :&J:Uznwk2u46=N8l^~lT*=nc.x?wI%<cgi$&G^k^HjwIL4k]FiXZM~9?opTdr8V27FqkmERbxq2?<n6BjVvx)!(4nXdEtW|h9N
 y[,~38%:7sPV:tgf&kRnf=Roxz8bcS4;!;>1>u5+~l,Mub|=zix(e%(cBJ*vFrc7l^Kf;~~?TorVv9tPvw>z=z7jt32#$%0j7zc
 S!d^jF$np4(sONsyk@>ZQa1c(|=SjUBu6Ad7n6ZQTFdc21l%r6U]sQ8J?(.+&<PEM4V*a;S]<j?61AR|Zx|Ukk.Bl.J%e#e:BY@
 YBGl(Wl^KJEHmJyHOY3pkAA6>KdwFLu1;jXZ3O+G2%b8tJqoH@+eiVg,T47F1'XF#wh4mSj!'tXiy$N+yZ23(LPVV'cEebBbgW<
 3KD_zu&0+b=w$,?H*ggUCLVpt'6DA0^oh19ECK6VvRLE3qiXScG'mUF1cYdPXuivavqSPSD5x*BEI(Fso1mN6WZB0j(7M&|lf~5
 cgLy2*^MeP3hh,'[Kxt^;c@]43wFI%k@]'AS3qdE*G)P4#iny+oQ1RtY|MZwe.imo(XZ1<mu)^M3*3cqaE|NvScf@SjWpS(wT?*
 fcK@OZc8j:B<X8u45ovdA6j?+rf;^1X=(lQ,Iw?9>PvGXEH<ZguTOt;7Aw#;'$e7+ASsak(Mj5xK*vi7[^:l!)VVp(L<6MJCoev
 JS=NFRjX?$HD(%C)@x^1HEV#Tg=$u?(Y=M2PNdap]tH[OgRO(*r;=,ayo]!7RpSNBfCNZ!^J,4'm0VbscW63L'9c%MhAPfW:WXY
 Le:tRoK@|2WCKu;7s>Ow)ZOg~o=L7PfP.,nN?]qBEV1Z:VCPLm:8n#aS>;.+:EzF|4oZI9WMkI=:!e0m?hjj%iA=h$Q)*(NjqA5
 :Y?g^.x?H*#(Y1nb6s2vQtAgdpJTKA<M]K[C)%#2:2?<z4YqiqBr[_<Djyp'RehdYra?%x!'UA6BryVweJ*T5_QxtbO&^QfQ*s>
 KPw<niSgt#:pvco$ZAS:nKxi#=Fue$''hooU7U,3tO1$?fv#!R.owpB'bua]EU]Am;K1,Y@>f<VcO+RW5<elpTc$NWt[i+JQ7MZ
 :Sz=Iy4tO1Y68C^$*JDL44)YR=U!+n?s5%Yj~HR49:H$$<c'i6dLG)0:SYTuL5C,k;bK?DkW~7&Mn#[~hs0_r~=p*YK#&J+3270
 pkle;DAktnU='t|^,h6SWH]<xM>HqvYeg)~p'*Lf'!S<b*m[$B&3Ra9rVIqF57Zgd7EFXN'4Wl(QTQfx#z#%!Kru4W':Uk'G>L#
 zWjaNV7.FjNXP;JYu0J:;'0($b#'qH5'ei!Hgz9]e*9,j@^fN_SH:4eX~|PQ<9!kFj*Ix(h'|yhahvI8;^jqmkwuoJMf&bjc!_v
 jb9[j4W)H(=F]^mA6vce2u.~;LY~l_144,1iRsk&7y2c9[(h+re2:Q&U#nXZz@Xsgx_cOeW?_^8%Fb&zAL>QZvWN~i%.4Os;RcN
 Lsi(C?4.|2sj&$nNr,vL0T9A45)7x)eLb#g6>5!0xjlk(~(xE>wn$GaPVYPrT;MFJ6rQv,mKa[_;#bke,R)A0Yo8DI7jW.V;?2Y
 !5DkAXPRt[SoadURYxf|uQ].IH)pJiE;8G1^>>h[o@tkdMLMten6waJ7_lTC[G*e:wqsGZCu~XK>D@yvM.YnY?:[8PW~#siz#tk
 S~>y7j*O'R3ejTwAE]dNkI.@1unY'P669wu1wSYGUxB[P%!1Yg?!Jm7.4[6raA>:[W6C~B6Y*TkXqPJFZ.!WB$3jj9+I*2!vdN1
 29IVc2I3<CBsS'JvM@1g@*sc1L>fB#4t0dL9OJB)D;x!!>5t~@%Abvk7&;mM_gvsCy%5CZp^RQ*_Nl~0wOlctIh:@t%9AX9akRE
 Q_F?C#5<o8&G;tH2;NySd:h^!Y,9;|t@8+THq'SEotW+1%#NwD)Hh$Zzr+^J=N9neVE+a)L;*JII>7~jF[?6!q@DWp:sj4f8A[+
 9Dyb=[dv0TGR)Lg3?u59%Qd;1GvPd=W7M4_5(y~W,p_O$86<ZJanXQsIu*!@^1j6PwzwL+,&>byuAWHM,CF:IoT$W58,&?ANY&C
 :n]*2hqPv'~BeIX9agXUjrmPgrt;,srX<q9lytfKgFz6JPK~MQA|N3R!PhlxR(c+(n^b~>&wyH~K41m1n>G&2Su>'el*]X$HXm0
 |K:06.z]'8aV#9wr]:>MFzeFmd9'xD2DW]PvMEv@>DiDl?9I6:nVQx9kcGhTp;aT%r#LMOj4TL|.y[egYHS#CF=d9OhGiJggJaJ
 LhR##vb;oX=TuEsyR8TomeG6OWpITtNWGx(TUsqt#,P:?[dmd6G#&T9yB*cEpPlhY;G[P.@Cp7bw3tjpTkQ9H8.:@8l)dz<eegR
 5Dp#OkQDqGM3H'fDLi2MKiv+u,l>T%qKg6@tMpE<b<$hD!,.vW2anZ$|rvfIjpIsHB^pigxV?2ex[%eyPVB9UF8O%f.k[?#QkNg
 Wi|i:%]_4Zhv4+Vg1'H[>+#PP~?)<8+<&Nu,86!L9igy=8efXQ%,nWDiHbuslDml0M4!on7NPwI6aQl.F~IYWhyW)eitt].:2GL
 eFbq(6ONTpbKU^h8&U5X0y!FAUVEOkMiq>>t4tPCa~7xP;y0t(sSn_f39mOr~HFCfPf.fW9OuC^ygPEWMq5EAuZd3t6L,;@,!11
 FQ_6r*'^~)2uDqQ,xet?[1#o8H;8bY9gp=A04i^i@wN=I2p$IwG0w$LA:%Blhbp*KUg|AoIHD:qgW6F!3zpZ)g_liK$_5|%X0ou
 sOf3Ql:Z[L%O4fMbcy<>7l&b<8AiY1hls'>KRaG~7(iiL>:FLWrX=lKe:je~iEz,]7B*1dblcv?f'%De$6]_e;gH[(^6q~hVi&B
 I<&gccj2|0y+>?uo.3=R1b;um*$A'_(,UZk*ZIm&Na!Fl+AtDaMqsbsjxzl(6qI]3r)FYo(*s~=x6NL:WR$s)WMLZdLXw3Abu&Q
 m:~lr_k?4G6fk%rslKi#;~EgCL3!V:hY=e?8M=U[KzjyrsRd[]Kd5Y!^G8GIQ%uA>e!6*KB&_Nc+sc?SZveuGYInCz976vN]8!^
 Z;2oY#()0MA98*r<#v*YCSz'iIy8k#u,ot+%'>GX4.we6FE)WD2.kXT|IPGk50!RacXam=QvYN=G@TV.M1&#>o%70RBRp*Jap,C
 E:vP!!]Q_SiLRj3vCVzS$C6m3)a_O:9]9TReTCX4_rd4eCan)xChBY*i!BfeXfX~VfJrMNeAGp($)!sa!CQ<c?B.;6:[1sNYcgZ
 =8akxZ&+lA_L](uXTI3YUYyZ_?%8bQ]Lb+bGq%P$DSZIrMtH@eLzyC=FZ'gIo^hxK4C<Yg@*A>6*ePljTAJE%@w<nb=[>C:0b@v
 82Nq1'eNVP;wJ6GU.plwD._=9sp[#9g4OsqJtk'h(=kM&0K6Hx@vV6lHv85!XmQJBMUnJ1O(E_e9<)U=@Y5Mjy(CYym0x8:Ki19
 so.4_BOMldf^zsV^j(nhQaiJj@aWn#sRj*E;hCt*hRAD0|+9_Bc=5T=[(R^2Z_:C'VwBQN?k$tnQ~>&>aMCRGsy$b&zH9)RwU6Y
 O@2Ml<F<Xx)mT.KAhh_B[fW7X]Gt7K#AYRnq9cWt.cD<S3@s@zs00JnTmoGw!ol[Ljs+Fg=?(yy&^vaqkyEj.U8@Mv2v@Z0L7zh
 #c|[tg+:DxMsX&?fvFKzJvlw'WW0eHTVw4g'U3D)gF:KIlELtW6'+;HMDI!:M'ki^m?N>]E8b[l!(AAS%40Z7,m&RBEoL,nueyF
 S6L?ms0JuAaN!k=&y8_Ak&cxT=kn7@.j<I+ky8'5h9_.Y3SbP@CIUd:plu8i?)pRF>w:D:L3$s%G9?$i0ukLdK=KOnbun!p.grs
 w?g&e15P2LeD;Xnjr>;f_6[uS*oGweDW<:2:uH#8pY8'98>uOdnFR2u$]78?_MFK5xoZV4gJZ]yJG^^F|$[~g4S%32m+@95oqOw
 kV4dY0Eg~DeV%Is1@EG=!'kLQy!s=lP7(yDI,~4uLD>G&i_:[@&|'p]cn8Vxv_NjCK[J7VBV9nQO~AETpL^!WyxRj*!5#c_(0=z
 (@Fl7HT!'WvV_kXF#gC6^nydy9%oUrn6Z]*pf.!Vj)(R;947yi<eEz5&2J~cF.f?*_fPgkQ?D^0F1Eb*;7@,XJSp0T%8UVqJq@p
 F@R84K3~j1T@r?F?A5M'k[TIkikA2s*M4EG6C@lB!0Fi],Ppyqe8L0Mw9W0dx#EbUO+x;^>u|J!b|DMK?tY87(&f&lKfSuT?liN
 R[xO(e0CQ1&[+Hz%)P8&_l$Fx)NeJ2YS$9yez1mDx14J9Wz4o?^l:_PUO4CaR#|!2@4gfWQ_0]Y,X=1,<lq+]nNI$gAJvIdorWn
 %]zXrD=<$UQh>U)l5TNnv8I5HEhY0LJqeEu$dQuutbfmTY5@tWJ6Y'<![dm^<a[H1Z1.d>VvX^e#wq'jVHf8806nq%A'3h(<gQj
 2SF[['N%E5k4MFk;hOk&~>P(&+f%q,&IoHzc+[5g69.9u3yMNvT0mH_E:+!:.8f;Ebna+Vh:6V3p_@+?wfkf1~;c5B.E9|)x&(5
 S0p36J:IktLaT4#vGhk6z^CzNEJ<vrDQ[G&qA77'm[1$fD2(J6f[HCR2zY^%x7]~<KPjF]T3c35xZb5N;Z_45Nk%_P&m3^h_i~Y
 IfSy%JkqC<a5IM=DhgXB=r^=D5=M~4y_;qI@|ZcycA|bh%EfnAyz,uHU9'M'W1hsk*OlF3kebj>Y,*JU2F3h3?OOjVf~KlnxtQ=
 O6L]zH|G&V6A_oi58|VN(B=Ba3M8'b)*^+_Gf+0aK!3tZSRZ9LOs4w>Xt|vPkoz7E^>)Q8qZWe+jZY%HeW;|gyD_aO'ux4kN+?J
 *|mkK3!;nPYQZ~:FEGwfJ0TfE_y~0G*J5aicuGnl%9@0KdztLT.nD)WSG^rLJu?]2WRiN:4%53@afG$P<aALWIa4>0[Irud[_CO
 Ce#3=bD9Bpo.1NwgWX]xgKXz+R@Bt#$VI?nNpEX[0ZEID#2rD'BlynX7XVNE:BS,C%r6~xHb6Ky&5Bp!V'FUKY1V:nNy1fMuqO5
 W?oHUX1>4*w]M;&*dg8KKLQ[sIHM;Oz+v;;4^xil2.6%VJVGwma_m(nfQxo*cOE3'Hoto'UCAwLhLE?K$Yb.#0_?E_>iHneDX+Y
 N8YtD4.YN7?~*hmfKIq.*1y[8@6]!_2Icwli(>JAvM6yrAU@SThL^dX92vb:L6m=bV4$F_msZ,?mUTmMW<n!q[F(b;~v*+BV8bp
 +>z!'X]GvO6^D6%E5W:hiW3[KEa~2q:ngw>+l)J?2pU._1C(;)ej#Q@[J*'01Ojp%N]c1EBQ!4|s>DF|M,Ql~y0o[<767cXp><C
 2$b0MmSnXdV?M$UtgUoF1fd!(]LX%ZAPL0?#VeN=ive%Cuuch2Yd92!F3*KA2q#cn'NiSpiXwq.gGJDD6TTUzvm=[:P,oohlOHU
 #os.qI=EiB=ncD:dgo.X|g_&t6j)T]^pup0Jt1#M~Fp)'1vJ@EiV09#ATeD0nk_l!s(KWX>zCtyfkN!Q3Zo=udf(Zx1d6HBihOz
 js@!6]j=q%jHaJHFznA2A+^hJl0u~%|,i99t8;+4XF4fDH|8Cm!D8<yF'c2g'xI^IvRxEay'hx(mlVNA5BbR_kRYuI44ip])[Nl
 q%AT'RJK@pGj@*#9F5ZXw0q_5(@aKpfl3:3oPq%,f[mpl,QPUlmdJEPLeYqUzsXwqHFc+7#O6<C^6K]=8Frw#>0wBLlu|kPW3ne
 1fRh&;*(Hh@P~p$#>>W.7byI?DP3+zm6]2fN%jcNp0PF^7$WA9^7:^iCrEA)*J9ye[)p&@H;[UE_5siAQ:]#X[KV5l6:MDL#ouF
 0QR~_XKe6EjEFNBQ^*m*tqY[tz^b0X2vVq.2UDufs+$VNx0(=b((O?$cr#_xz%%#n:5sw5$3t~Q5la3Q?ti<0vNgo!)h&R8vQy;
 :y!B52'O5R@y8%<8x~'h#[Gx(fcz]%!C?BnbLg5UsSo]OjYmA@fF]lN2'2'27tX%D<vUV2['G$eg^^vZcTTBf=ecc#74^>YH)w.
 9I^EyPB'm[t!xAZc=7I9!]tTWe@:mo1bTqf%.D8.nM%m)Geh7G$#,Fg'!rLR$k?@R:WQ#Awm(H3wi<NTZ3JIX1yh9!tZn3Sd]mg
 VF01_]Qct>v,'O&RY%o@FCA8eem1?p[tai*htv:a54Q6SKWk%:^v7!as~jriI).eRaY=$&3m)Yv0G$hFjP9tz<Ea&yH&R]J),,3
 PoiD%>]%!r=smo|5Q_H^uL#$*s<sS#265+>EZdH2g2!w6fKL&FWa&KaNh<PJEwLyLclW[C%zez[ZYsWl=?*HTT=?k4;r32?0Ar4
 t*823#5d<YcdFc3aNKEX?YksBaUz^>BD<Q27A3_34:pVYUzqll&Nt#tN.O*k4,9dsu;rf%KjJVorh<![>PTBtTs.eVy_[r)7GO5
 eT8*gqkL<S&n].oigSBhMhvmu$%l42KG.xdd~rd1CvhU5RQwk4ZV?uE(KvW+~ba@)~15Uv+?:K!_1lbth7pE[_bJ26BWVQllvgY
 2bR&ly&j8mPAJ6dmT5l5LkXCv$%cjJKL9a1cvPdLT5eelcMc?ABh:4YNMgldDS6JVT%HNy&>6fw7H&z1vwa$ATQ+PGeAWH;[Q7I
 f22!LKukycJ3OrGIwpOOwiTJzve]p!h0sH^60K.zxueM]nG6;m<ZEk~Y]Xl9(Wk<VszT%PA=tb[LW&9v,IM'kRlLHV|R3M@nL)7
 9R2)DyX#0>_lDv_gVsn?wfyCH&^37~bY_j+~jHnL4r.ptd51h@]j=1U%R)[|bXEjB!~2_0L?q&=]BpAs^w5ii?u'bMN!CJ'eW6^
 *P']RN,&6_C&q!q29P$Bz)PD:J~yPcE$ztVDEEr_+<GSK1A:~vZlwO#W1amr;p,gVb,5J#Ces(%bheTIK>4QcNG%POG>!i,u'<h
 ,2@g+YZZx!]_LlE$@Fa3?BZ!f&bwGu&OY3x',:OR=<1wO%^7(.B3y,#)P+o(fqDGZv[4loh+kfugmCm1v&Q:m!Tu+BARi|QFmrK
 !EdFSCZ7CG4,.nE@TIwa8qFxCRMe7EVE.~GeYJ^aRv+eQdIVaB*PShj3TjJ08;)1Y(PxGMp~|<mTzg2,L|0DSD1Md@bKR|5%b'1
 1T=NIi_E'%POK!pV~r%0<wMkWDhG8WUKn&.rMuH('&n'>GsOFJJ4U?6U2=mW9ltRqYErx8Oz+EO8g~LjUowLvmMd#]N2jiYbUc#
 l?]K*._8Q$6jFi0*ypd#LPOj^ya,!G+Sp:.Y9FFftu&]4Y[0fRukG:v'+TwB2I1qt39PHgyH5g|%zA)N|h7DU|6F+[&Xg!]Lk_8
 ?L=pPY._3&y9qs35~%?^DJQrxr9VUC;wTWI[cEoKtsFZ4&7n33jK6)~<+vI8hbJw~4u)U1>&%O[#'Be6D:x@jXaJIFVQEU.rp9+
 =IJLL[c2t1sygB:JiiaT$7_Y&o%90~>j!Rz9Y.Z!]pX4X&Z:c>_Br%'(L+CNycfi+:P!9<g~L(XR5fo;sR41>8>%YyMsE$jrH[M
 %7O?gy8C'^c)Inu6,essGvxk|Ic@Z;oc8d&QDV%)<MI+>&QJ^9nUtG2aA9T.+C#MZ7S4nIj2o[33hJkaUb3Zx<f|ckna_K[Ge>n
 :^Z]H=#Za&]6z~V'Yej%Z(slI?Ea&<rZSS7h)MW5TU15N)Q0[A>eh]xz,.o=OhKe1h6ZG%Q*MMkbC^!t<cZS3^eHtAXzr.T#$p|
 uQ3m4Qj(WvN.T6M@|aF3YXpU:AXC1jgK,FfG%aWBk]y?RL^N'%!ThX>23[Ef,(i]#Yxgm_7:LpxiQXCluhFb=$wbhCO5!cpO2Qc
 C7w5KuUJ3F5J%w9I%!_]4;gy|R?IR_;P#@x#o>Ha8:~=pGMn>FLjEn+&aNRp#O8QYJ(h,hk&nQ+Utm]KkrX=bBy>qWP't0Qx3kY
 SF(pv9Z9I4n>Q#uc3AGRy<A=_*G.'[x<Lvn43l7@byNy#1wTOT?gtvFS8H0GA~cR#'Y'$R?<f$ha'0f7E*dkV=#ZdPBr+LE?g:d
 4&jrx6fd9L1hpES&W#CQ+DArn9vo>NFhhxvE*7E.AIg_Sc(3@3gT;Pe?gA%s8.Lk5E?eb6tN#eB)tF:+'MA'=X$d+_uK<8rG&)O
 Eam*p=fE573sKRE'7YLr(0e11$uuX_KTOD^6Yz)<ftN6zM:jDy!^2$k92G.VS>w)2+)]V.lxCRG.Q8hVHZg$=Q8R'+>$(3wMm.J
 ycy?aQ%cMwxf.qyr%i3@t)#2qW<wB6UkNsIPOY&ir'y9H2+#;k|O,+r2X6bwEhugL2oN=wq3>r'7)13#@~jCedUyYE5*OOpQQ,U
 96m#UehAQq_nLA*0=N.QY=6=Tj4I)POS,9bm1Z(DuPbIn)_cIjw1KA:|ZQ+~iB&,bb5!h_!O2N$85.h0MubX5S>@:9S6'6(5kLn
 |PY*,DRVCoB5ZsS:qX<vMN1p?uB>#hor>:,1h=dnWCFy:0&%gt7>F,1Lm$OE6bWJulbL.[NRikl$4&hns!E.jYCSff:kA7aXO#l
 0x5&^&fH;?Hw@SY3u<AWW@Xt~?e__k,TgSM:E!%3Pr9+c*H6yE'oTbcV#x|^q9YGb.<z]+'35Pc!LrsXWtNZkK4Jcs>vfW>:!.E
 vkLcy::)O<bl;j+(iLVI)H8s$3BH;bfkmS,SY)vSi~n$L;ZXK_WYpV.Jd#u;?t<U>KBahI!|fRO;tQS&HQ0BWao.Tn<r<xsfpT~
 &jO1w6%?*?fp.OYHl%tj]eMh$CE[_3KOD15lOvCOb93C).+d6CNNb'@[]^yapPH4(ZKDbU^2uh9N8VZ9K9ctTyn^Ld|hPhA1E|R
 J3p(:#>|KeoD0xK1j95f![gxO>;IxbEHS7o34MFwk7=yN]Unv%fDW.i^M6ubY,%Q,kC?;m_!=7zE|<'6E254.yr:=552kQM?_+%
 QGM]FF^kC<1(%'PYMcEoLO(9'OL]tN2mm2Y8Jh;|tK]Ll&x6aGb78kr?q|OlYP94szo4mK+6VQ_X~(V#wvEPk&NVtsX[+H$.uC1
 Ji]Z_HJ[QuL2QNWxtK%0+ulxrMtqhp@&d'8zjlxtEQ0EZbeKz|@@tK)fm(QX=;q@nES@>'E=FHC+dj5Cd,ooopbE$LQ724qt*D[
 8lsbl;5Ni<3HlN2,+uVi'osOwNCW6=GO:DI;,8g_KzJ?dj)z#cDP_8i.5S_U5[Vjl;YwP2[EEH&Y)]$[e@9OckeKMiw$wLv!YBu
 <SH3kcI#uQi,k@IG<bPiQ4X!77ItckZ2f0JN|k3H3erXUX?wCWM?WW'BAoGWigWb8Wma.Kr+]d]4KQNbVuvf5|'WvSyfS7(M~Pn
 L7G8U+M=J$N'[ozJoglTXHDcFYb<e^t|qZSR8N*[y4lDZveT0jy]a<pwNel$rh&,&2~sJzP:1_2>zGL~sW?d#jz,iTn5u*zXyCI
 Fi(d;CGTj9%~W2GG^6P$05>%pK([Suj[&LKin<qjF.8KeqIJs64<GXd+Q#6a2bV)b@KW]4Ya2rnz7Y8w,2xqlqHrzcFdZoH[:G&
 &KhFT94K?=xdNh22pZcC]jbWYiLhhLlsQaC)5He[LvQLGBmHo?nFvzjcaJh_NvmZJEQ_<I=xvUxM!(Oa(2~wbAl19DU;pfR8A_|
 2iZ#Felzj&BoQ=)#]!2,D((CV3'E2Pc(I)8PGR8~HZ0P=$ox4S;Yk*7#Xk@ik~yi1>?%Mc^7|*pJ(wl$&:?r*Bo?yrsYY2hM]Yz
 GC4yUUP::A@?T^h#QBK<HPlwMY$,tS=UDg7ou&r:Lx~F9S9d~.>|(((bLPZBQs9xTJT4SSlnsN;569buh)G5sobU*k&z>%n@j;N
 2HCy0MfSQiY3,I01i|R^#Cs3EA@:aLi^*NdIrcz_rlKDiXZ0K@l]*H%p1nru0#OH~UK6Eu|=)QQVI<~6wa.4'#Sn(>z&<nir.'P
 fflZTYy.xY0pTy;>imISoaCvL3*ch;8.d~((5Zau;^fLn+.:jh^q$&:*mrVdx9)r$WcYUBgQ(D1]czFeZJD!$[X<Ojfh:whTU1K
 y~k;uqiqh|d=|OYOC7UxS!e<]6Tj<S(3G>tkjc3rZp06?_JEI8P5%>oyLnFT911_dmUo>un|UnZA?5W7dPoabL,0:Eel$UFE.,[
 Ue|3mT&SE!En#XLkP$$+8X>tkgqKtZ*@Zx#sOps(5_d@PT_SV^v]:K=lnUZF]h('37!0f,un]TUKvlAdNEr3E1)p1]61Rg)9[]+
 jW9S(u2g@h~5+Od^X]og+sx.BZrMo2_lU)lT0,&aQsi=jPfAG697Wu]k!c<*An1xQjTWgJPEMxMvpn:3R'u@A:Np#K>m:i*4p+Z
 0SHP!i9rL99KGVr.L;Zz:&U:lR$1:R|f*05uWwmEz?[LjtY;JP2,v$_VIwZIS1!fb:fo4Cl#TSI5t4;U&_J5,Evyrqov)Sw6v.N
 4&5YBl&sHAq=Q>sU|nAfU2D_QFQFNm3%oDFAG%[p~D9+A('+';~oWR4VQR:5dm4IyT]C)qES06lESadig(]80ht^GHp~gH)4<J:
 Bce:r3iu(GC8LDv$>4[*+ThK6IKcD@5EByJhaL7t<tWqj[el2rx+]SF7$'zZ48++Hd)IXgqyo1gdIY6O#!Aqxyb!h=''az&.0gm
 *ZlzLA7:WRrS*BMS;<VSxG:*dL:^k|w*pE|*0<&X4b!bR>D|#tzyVpXUsPwVXM9EW>:Y@j*QEG=d>$xm!.3x]0w*rgFr^omc_qX
 zCqwR8RUnQVA$r^hSv0'*V5mI?kUvjc^qeXq+=JsqH+4us[RdC;LwQ|5wQx5n>!oA4SLwD@PD9Qb|7Ls#w3r:V;H4T^gd?v1WCc
 b|b'I40R'KQ1iO$m.Y0%FI0z~je9IzK*Rj1GB18YIt[20WP9HKBb^#xerIMMmj9*s~LK~hQ2(v~hK8A|f&g:bDBWp5JSP6Hf2~b
 X%N,,g&2&_&2mp'?PjYy;%Uemtc+[f;0:XZ>1rFxmy@|_G6@k1]zSb<fmQK(H6VOw+fde#!n)fWDin6:qAUv)jfgS!w[o,HU(6A
 ;Bncs5?EHs>e'R3+2rE]c<9OSF3ODLbQF|*VevG|cAMW..m4)<Gj?&WWJ(]2;Y$JU=qb]kK=!h9&2x~Sh!+oYLtkry<&ph1N1dz
 P|X<&.2gCa|.1I!yW*RXR*qu~V,rlk888Up6Z5;gUnRB%Kv+IESk.B]G+z?sG+uuX;#!RDnI6w~^m<H!wRbN?6VfuGJ=kB>TFU$
 6'q~7~Nm^.'0.sq1JSzc2(R&h.diMhyCl@(xy)gF3MsoqxoQn1,;^Umr1E0=Dsj**SGB)ydboIFS=UElUT]j@abf<YWVh$.^^TV
 OMXM8C[MBl''n1WjnwwwaA5)e=P8vRTY0;oLp2!dn@5]9K;:P5HZd2QnoE%RR#DvML*'kAH]64Aqz+k$P?:4@zYZXu|;xDVrtlM
 sip?7Q@$Et7ag:2Jxkprdn,EUV4eFtZ|I~XGflhWZ<wG:TWJ4*G(769qg7<Y4zN#xli_fBT1<+pbrLSrQk<2K%LvC4NvILeJ%[&
 BzOTBnjy%7]rmYz&?UNMxPrMkB7fa.wasj2xVn<MVLPWv6Br&oD^#ys%$$DU;qAXP@l%y>mM|R3!7lqTznD$x:MxPQ]#RJW3(sN
 KoORm+D8T$!fVI1daXGBII8s5jfGn+0nu:fWu~96@o.zgs<h7Fu~xkW2:A!pJ0TXXO2dT_0q9+nXSI%.!9ian,'TOM5)3vm&L,W
 IA'RM1cue%Z.z?;EI;xZj,=IFKHPay7!=N:d]:MthUq4u4vo=u0TO!=3)n|Jhgx5[<M!W^2UxmM@8)[UC_]Sc.o)(LOd~ghx.)#
 OzBz=L+u:)>Efoxf<GV|pK#nIVzD;TewU9+^=R|;'~Qp3a):N!X2HbEn0<v%sH@PG@(q=rKoLuDvU$dZkg1eUiG.b6OSWc&FB9r
 C)[j&YWd|7nXEnLf4FIzv@XA,O?*%&?2HI)kE(q~l>YjY@^L&3Nl_Ip^gtJc^,7g?]QY~UDtO50>$fdTJ7do^wQX9)|LeDGszTP
 $Wpc*)MaNXwND8nw[^RBSIMl!]Js4zS^I5d=0D=V@21v1'QC4.A(>,Zc?%TR#[G?*)@Ghqbs~)aE+8!(]9[5Mf#]O_TGIP[8w])
 j&Hw4WY3OvZlPr<7X=5(m=fwL,2~OUbm8TjYTJ)Qz?*$'3ih8pJpSziAUUf:z+MH.:='K>CKxQHd;JWQBQmiYm;wk2B!B~h3UNv
 bJEDH%ulpQcEH@Y;v[o[:PNym7qYA@D;FOG|R9W;Z<',p|tU7%P~>v)_Dg@aeaoS)Dg($*=993KKp1OW>ncRzwDNn>mS9=9+PaR
 KOh#+1BMFe#5;@]sXsk@XZIqguG6&y|96B_]q0_jv?xS35;E&cW|Q|(z^E'bLdq'(pxVb|ud2eh@69<a~8cOE!haah8!%|AwNCi
 PmSDT;:'G#[9zc_zSbIpMqw]ziw(w1&m4hO!=O&5dSz#IyHP_9t_$2CO306g^L4'UC<wj?I2[6bQAH7l>TFGk8MJ^5QTbrF!l#Y
 .24PRMJG:.;Fe5eZrq0CgT0j>4xTlLOuEgOP?2CQf!Dxs#KKI&V,zP!sz9TA~Cy>TwvG^B>8wKQ#~0xR8D4%R'AHY(y6;6Ncr7=
 G)~UxBC9,ielw0VevicMLgzz;l9eos12Q!SWBRu?ltBpaVXd|ewUh1Mai|cRp<JEY[dUenYfD=R^!j|6G2j7@o=97+6[SDYo#'9
 W8jj*hWu9JiHtkoUohc'BDRzaKexO&k7jtb'ROuRDk9|x^6,e@6LQtDx5I.7E>:&j>qN<!^;*B|!H)37CPG=ZkSybat5s@yM;^j
 Bzau[7Xo'BE(=#X=<),Na<u;d''kqLivEz.D0b#b4%7~9Zqc[u(c5cy0[3pZ4=bCRK56=%G<jMq@?hNqsBv94T5?oDaH3>~P.^>
 '18|*iP$*S+uqdd7FS[.y,o#zsMQVOWRe^N@?z;HMet(ch#9q_Q[FmBDd$Ofw7?kYRuw,R*le5&:KF3@u8w!T[CL;ms^Q;RRy!d
 ;~#|q,o*cI,q&[(^RIM5%)!p34o<~A[fs0ABUdaj(n;tKwpBZCG,y[8KqNqdpY=d*2IKB#w^q!nE8v;j@bgKY9Qcy*[fv*!6?_L
 dC14@5~GnEagN9q>t)*(nsRi6grjxhQkJ_JWjV':z;6K|[AO>&SD''9[bHR&awbYWgA?IwfIyqZ)!vBA?s0m2!xzWb?;I%*b^a>
 NAc9ZOZE3u4HJs>)lZO;03Q#E]ECz9Zfh9Uto%HJ.Nn]P?AYj|zeA;!]eug*q'904o8=83.LJn;72bWmh=w>4uCl3Ezvt_UI0nL
 'V0WYU!+]R8SkN%KtNol6>=?z<>x1z4J+mZwSL#*Wuf4R@@i?AV%XXgU|TsL#rSazllERO85hK$Eys2KzLFvXQ_BkH4c2WB>T7t
 kXjJ@BOINY>D*ObtN,4sn_t<sCl6$'g(([*4vKD%SP=BZF8T?vZej.(ypS&Hy61Lng:9JbLw$).ro'muuI=02vtz<8TNUuNI:cx
 t&&;18mvI>lkjl|r5vr29t(rRF^r~Nm_A40WATh]wII1@30CGilo|Eju'>H=moj>ODbXP,I>_W?dZ]z)N<F7|Hzoy'[U5%>C1%@
 ZF]xfadn<~yL84vp4+b6A;Va<|Yk1ysy5Jhv%LfBQ|**.?zt!=ayHOUHod!v8IjF|kgoBm,t&q~[;w%'Y.y&fdM=JHd$ns3Z.W|
 q~YGq~X'u<K1sLoZ7MpP4[b<0m8|ow)A8pI+Mc99HldU=WqHt*2nbNn~mR4FVh))!Fr7gEFH*<Mab8[YfbXqLzKM2IEualwtdHD
 div;|XqZi5gMjwXzsGF3j.|MK)GI95f|tlTx9S4;cNZoW|V#5+T*1fZ8f1RVsfKL<9t8wIyJ1+dh^esn%p@?u8u(JNjTS%~9wF8
 <kT(H2PRRy_w?$XpL&s(5I#0j+gF9LYeeU=Hy<d0oSb~'FZJn'088Hvzba>,@N5ZRh&TYA<]3NRmeq&cFu.#Ar*tZ6vBY^UF(ck
 aIXx5B=rRh<>3WpH,<d6[Il5U8Dy(qR5XWE2qq:UM9%rq>vBX2ku?xpH0R=q$zSGDC1[[fss8,!:N#nvp(w$6zI2a>H~v9(I6b@
 *%.iJ.mDA>VrJBQNkd&wny*wHNzFg1[^8.ZbNfD*iShU9$oPUBzL1l_.d6p:DuOrE8>hXa0LIwj:zN$k2W7=.c4h'C7=q@E)DWc
 L@_inK0Z0zgjP34;sZcy$=Jn_~@d1eQt,gQLNgdXdS!XE9Y~GxtPUO6GQD#YiJ*yG.(O##Fc9nW%2^iD:u3XK]N+3]~tX+CP[Ho
 >J>._^2?0ysZ.7A4XhH=f&jQoEe%,dnHn~)@k!,w2ca>s]7*B&sC.i3wdn8P_v,vJ%[^7GNo|7V!6vo[Ee.2]?s^=lVc;@pf1X(
 ff*GUw7)8a[75LwD15&=2t_%nIL47o_O~RQ]x8,H%.UDzttz'tTA[+_2~Wk+!K:x*g(&)B6Tn)jg[V?K[@R0QOuvpe:@x?gj:%2
 D4YQi:Xv]ET8h4ckXiunC^jo67YU+Io@rK;K([#yS|E>gx2J&kCCfq&I;YHXI&gPVyf!W~2L71X1@C$<mKmlQx[&<'N1Tzn',9p
 r]<f([6g8NH2utd4i!.fSG9Fqah?LTFZu4:sHaWm!cl*h47QCFCoXM(UOdQrlrA+tbt+G#r1j7iLn[,_RFFjz3d!3pGl6SWpP8=
 gG'@2ZzV%VIE<#'cRe'b'6JPO2tk@=E5j8YXwVPe&xxqaMqnH+SWqDsa9bQD+XKKxr5g3PK)dHyB0?.USTNC+I3qB)<RqEryD)s
 =36Dw2jtxA_,S%23*(**[xieQ[o|gb)$G$jfe0xg*9+o(V3yOg;+>8s$7IVwxHu!d4PhZWk5Bzy2.+LKt.6Eo!X@leUiv+|cm)!
 $O.ue(adXY'A#Y6HB6#&N5JAgz<)5ZYqkv75njMa9sAV'yJ^%YyM%r%AF5C(q_S,7#E9EDL6z[43<PO.Ge?%9lc$%4fc1|kHKPN
 e%aapM~%11%qzX#V.1.d7IYwseT>bfLUpMQx,Da:w[)1hpoa,x!p(qd;m(ZdPo!$?^3tXq?lz3wmx(6>kB.vhsoZ^=Q~qyWEKjS
 ]dx;7JI#|FHz7m0kmrvB7+kDnho'hc7E|JgwE1OGx~)trUWy$Cm|3NDkPpO'K7j*INRQs%(CSv|C%GsbV8XU30j!?'lM3u'+O#x
 6q'n3#yC1~&_sO7Zm^4BV)LXV8.jCz0!qcEKI3HiA(w.5##(*|ezvib=CivoRX>2tYj;_%DaD!s2xV2~_O%s5ofK<<|E(Iw3,|V
 _S2kPXme7L4XS(kw8|CMaNN=!1OsvD?5oW&,Boi!9S0bVM,7+xu5.MkxRk0Xu7McMnQ!=dv,T4*|5fV.((N~iPwE22'Z'_hU.<v
 _8E%Tba?9+64qx&rWo.hb_cd=u+1QnPV3wZcjRSws8rc#2I+d2#I=@Ydo^K2g[>m5l@Vej7Ck~N&~6Q*Y1'6wW=Xu'0xCP;l(Dj
 IGkn0I@Ihd5zUbZdB%@_+dS[K8nHbWkHSl,V:3O#rTHJ$v^'^V]:utqg^2sbZ^wHd3rf<X=oJ5ybSj.=9B=32b*10wtQXOcsVT<
 d0Z~i<UitGq_avw,o6P9%BcQ)3QP,3bD@!:td652FJ#gN#R1Z_ju.|uh4Nl<p3Fo!dzyN5t[w=sXKR]0dXHp1*2L[9pKK^BE.f;
 OD0ka0In.lTZsd<PAS*N701aQ67bOFA>wWpjI&:i5QT+]N'0|Y|l0QMj%?G>,Q+e<PA:;OaLJOI!Jkk'M)>TFLyGsRl'8kJH%y,
 A9M$TZEgqA)?k8l?R*^^[W_7y)$i(Ylv%ZBE>(euB2'7gM%q~qCXN%A_em1p,+%3k@g_+_Qf#O66al=q0_aRX1K2c&Gi9[NPYCn
 P&jF~BJ,l13&;VWvH]?Xaq=L~Q5,tZ[a*rmx(6xo5=T|2[HZ7f;e+y!R<[&qGj^ZK~&|%q?;@Pik05S=UOJUa)&BV?24TuR~2du
 (P:O$^.7I%6JMaZ_X[O*X!T;hn'J5.k~Ma!0@J1_z=!|vf0)Gak4synZ!>Uhoy5ONBP8GJBjZ<HDSbhL'Spb,q+p?c|ejzefRp[
 V[Tj6K+7nGc.8E3oRw+X;!rIIsI;Xk%|Waw8mVIGvHZnuQ^3eCW2*d$y|vqii'O!ShW%_Yf_]PP>R2)@ISGZ)2?si^q^+$92cA+
 Xd5dHkrO05JgZG(<^$qn(+ZV!RMj%*7?o2Jt~QdcCZEjc)'1oK@qjl+WXl<S#;,=|]=thN]$9HHpPpn+RBQ:g9@R4Mbn##M|;Q&
 M$5HAY?b)[I%,+wP[bOS+g&ks?v>jG1'|wqt,6HpIhS9[gL[fiBu2j42*0fxT|oTDpj5bh%z|*v2Jx$Pb7|r;[@JC1M[tehf%H;
 5J1g~MwM$~cFm1yc@F1V$M?H<r%)zIdSF^Xc'Z,p1fTOt@<<$$tV,_:RL([0^8UCg>KBF+h<1aeT$b0z=^=&=AS0S0zrx1Uyb,J
 !s?pMh?SAi&vv'&Moix:o,Y<t40|n![q]2dsG!EF!26VQT^<|tTM[vU]k6kGlgn7H'ZNW9aA8*toin>#SKWXlYvf=~1S~*#IG7N
 )TR^>^t$KOkJ[=@!gH;$t4MWT'AlL#1%HRcn|*&&jVWl'a28*ViZQkCYu=<W6+2xnk!&=i>]]J?[H(NgbK7%=Uq'eMlu~syJ0#;
 >Z_Egm|AQSOk9>:+Q37v:[,oe!D'tB$Yn'KHFV~*G.>,dtKfpP%;XUbd5MTq:)p)o&,|'?Wz:hp!jU+x*$o@*1SEwS@:(Yh,j6(
 v>]PAFI)[Aah:%Pp2igG0@BGJmt*'S_%u,.SwGK+VD~vY^LXFPXh1'QlDI$,=Jo[=u~AJ'k[gIOMCxxb@NlD<_wY:)[>P);(56J
 jlK^+++65%N]::x(G>yyfTHv$DyhRj@BX@yEP3<rH#~'cpSxZol>~z5ii?EzRxJPoH!SQKGfez(fe:AdBjFL*p|@<ho8mHN<=Kx
 <XJ.99T5wyR1fihWUv*~(0)dcnGm<=P|fWjb,Lw*Zwq!R*NG297k2~@tiUq4H(l;dKroxs?4eSBZS)B:HL_AfLHPx@q2.G7P|*[
 dPWMBo1|Guc'|9_;J8~XL|bj+KmFPh,CE~l37LaLfP_sWZ.NDZ!VIG6Tu>~P5p5<D4&Gx.5T]+IBr)q[W]EBD5=C!0=@:_&e'sg
 HCpXw$jQYct1_cdvbC$;CYX'?v~6;%Jh+xe6Urovu3V<JYEuIqggz[zyeS%S$9;e+f3k|b^o_0f%E=xh.<_Nv^z!<4i8u=uK;:V
 KlcLq,o8lclb$K$uI~gLr:<QtWaF=WRJp9ovlK]F;o=C89<Qj?!#*&$NRfNJC>53%A_wUS$Cn2xm&%V3bVp[Oo|+Z;,)p7Zq5DB
 vE)|C|#L@x_FuNCin#j6*[~|(9.N:f%Hc.n2Fk%dvP&a_Fgt:W!gDsf1.~'qHcA3K[h*6SSS'Sf.0&c<Yyhk9L0IlGEF4<fYI'[
 zjcb_Hends5<08u4bPsG&VThF'~'i])wA'Ruzyq3h9G!uh>b~#&Q2;dnP=Zwt&x|nW?f^E*kEoKPOKd>mzWlc9*,''#_+oHZksf
 7!oK%tgJfp7(+t|^xO+]L+9'+m3XPK|4'dN^IOck!h)G3b)BCx<64i5?AB0]W30?GPNZ1h_;]TO:yM(y[P?G'%~1],bdS_VYjGO
 q'du<Y_%wRuOJZ0__~066PK&ye<3V(:4v;y6OnK?<$s1Xo(*5UAuTWx,d!fmq9BfJhdt00bYC|&4(~Z7qKa,q!2G[a36|Z>P]dg
 Jj$s8>~Q'lIkb#*|=[,:LGJ^!AQn~qmA$GyER=:e.3nogOn]?nOx*+4h|Q7O1<7w(=esIggagY^f[QQm>'M&yB@w9hPkV'm6KuU
 XKx^I=;n!x'zxy.!moFat,vEp%&.eaT5:GGER5Zat2#EjO%kV$)TlJ0(Zfr+0iRhy0*&v]%<?*EhekF6,%i~y5#J|e0!v<IGqu6
 m~A%![_q1.5EP*:9vN#v9gEgpFCI^7Z.I~Nc*@Uk.A,e_#>'+Pt9JOgtHfv&jBlm@Z%#r(^,waJ27Pg;'^hYB9hM|jnM0YN&vbm
 Ft1*1=W4QO<[v3[cc4zms*;)n?ui'^:fk;*Lj&q=M7$ND5MMLSbO5GGcExvOj=;zJCqa,,5ISJFM*'gk4,~#hHv&)0C<^QSg7z!
 Nq]?6vmc+Opq!:lX~|#|Ka.yc!elrJk:H0g,C@R:aeDR)#e4O#KG~1,LI5xA?uBMPx8Z:7gY!T|i<f%0l@?z^EryZ%TPAINv(3I
 pP>f=SNR)22[!o6MX4qStz(*~ba.[Eo_NTI#M#ndiMZ3@.bvm$dUH@5gH!52jqRc;4:E)^=7cPS#.|<U4D]Z3HUCDG0A|402lZ:
 ARhE~0v~|UYz#<st]rgje$:bQ2SHsjuAsJJZqm1EKw19T$MZ,Zqs?04GV[,_Ge%Yg64Rw3X13ek_iM=xt+9q70S4z3!S|~6!o>b
 #@@8<x#(Nz5v6u~[:.G<kICn7DJ[>CBs<hKqo~*|ds&MtRrRBifkr133^Pd2?|[n&5i=h1+Ws4N=3:qU#dmV7x5s5II32GVT|i;
 0i9^_y!Wc(YmkA'^)mw(L6_tP]CR8VAQbai3Nl'eOGILE:~1_3zHD|,LvCyED$n078B8%^DD8C$Zhp>)z:j~jYM,Uy3)])[fO2!
 TdDZ3@kKK5=h:Ais?t!KexEBlm9FYs4d#&igsJGs[*D=MM2;n_r7BJKL:]iBa|5!<)1v=Jxl$'89):jf8He4^Q||^,ed)(FfAD'
 *@H]M<(oJw!';2UdHA8BK9u>Bf_,;$23A'Rq$Wenj.)]x@Z|ebuQQHkrN*kuw)N*X~Mr+KJ]ko!pifY8W@Jmt=TD1Cq'QuPs_9z
 ?wCg:=:Uu#~]%sFN@0Gf.mZM=*T#E<eKUV6n4s0saBW)O3a^@q<CH]u,;^9JVi%p^]=p*y+a]c,>9^Eshg[Xhrt9^XblWmf?$$:
 a2(259)i@(SwtcvXyG5Y&K#oef_u|(?Fq?PdYCVoux[SBBFbxc4UjSE.<T*]D17;tRj,:%cHvi8;%3jp>nyG8i;~Cf&!H$TD2At
 t%+'q;N~ns3F%RD,^;+9QVAO8n[O,);,C6xn+4aoH_JUUn>QkxUI9i&8As;9SY+Y2(QYp~SV8ONDZ*AMg,Z(f|(qkUI7GmJX@_)
 )?O5v0?1:%]rE>wdK#<rmj!CG,z^GT>8!|)dJE7C:d2N1mQo8(AqF]lGmGbgo((Z@!I[nwfN5b1:7,@n=u+~'>KrWe|5.Fa3DM9
 t?,g%B9q[V@*yb'[*iAM9VFIabbDsw[3:=.Hifft)bWVmk)>f~ia^Iqi%2[%$'5;~^BJ:?N@wYyJ8tZsTa?phe2Fz=+]1bqRd#)
 |hZVj%'6n*KaGMwcNjqQ98>xPzCH%*.%6ElacyY'Ht9YOBzVrsU=:eLY(oosqooup4jZhSmx>5NZQylA&XUVqVDkfvvo:7P:XR*
 X%hYJ%ra1IucA6~7b,2J5emg]~Aw^T'Qnju[+XP_I&wl7x;#,t$d@;HS:+4]O~G>v2Pq?~^QpGxASlu2[p1XywbT]Hq&T.a,<]w
 >+~H~jDoGfWd[*mR:h)f7%RCj8;!jQ,wm~L0yA<GyN?HN^Z0h^F|;5KboPiz_k_f|bJ]d#Nl@FuI:.!q|_~gBG;h,(MPY~.N%we
 qP;v+0nXRg4iKWbatJtXD=xRXak:l!0WN)C5PAKBhLXD(:=EP|zkIaYmTHq?,:)]GCRK0il4v%S^70:rOv0FP>V8+#.o!!mvZnE
 ^lKlUTgY]3[>cI^.bK$dT&P=G'Babnb),&o)jGqWH_HnF!#KP>o'bKz%,rden)2NU1Z]KhzTwsD[ut5pC+[ho)u0SjRc)|<':2V
 A@f^q'^F8iM<fgRr':HhR#9'A9m1.Q:w<8U)sW53X~$&B[l[sw<&LTvbDpaNWmZhYS8JvI6Dh;D~zQ>@HDDhx2o]legkX+iIf~s
 XxX6K,|CHRyRB#Md0IcMWpIrhDx5GxQcydDkN=FhG!v0iTkrLxMrqUjdz23g0@|DAb(z1%FY<rJZVA2Rtox=M+t<*:A>;eh0Rxf
 @jE_89ZO6#%.y,]&Dc+y^N_|7u]!HvIFs2<<$w!K:qKq96|S%hV>H|;>3jg(LZSUQ6RV4s3++Y=0pW:g@F9=^SPK=I@OJI]tFwT
 [;h&ko0Jcl1gddRFn:xi=fDN;MHb~FqY>e?eXZ:dVb5q0]sI:'o,[+2occkOKAR1S'8^;9LSX=Xt*$)]WnQO,7,x'lx:$%!_xel
 DT5H>l!h,%h+]HVn*ySvYV?K6R73Zj0*nXnh^YCiLGY&)eA@5VK.@2MA6ZB^wdS]^.:3NfgbQf5TggmmtK1RIgXI$ZV||HZdD7[
 ~ytQH~jK7(uRPL>]TN$S4%'rOxiQ]ukl29yyV_rg(L'0,[10$l4,V>9A^I;,'$0XxSBchGx4:(wPz+3'>9aHW,_T2_V3?gseues
 ![X_SWE(~nl~fjZ+Ku'+~~I!m<'YDxV~nD*U0OhroW8yTWHqDi6';(.CJM_:?%5l;Ujxk~kJk0Cu^^@jlY_v+:Y$CSK?STx.IHv
 Vh&ei30<P$+iJp<'S:E5CS0BR)!zElM'gFB:7a&|U.IB.rk2Dx1w$(YF>6!GuLIO^CzdN.XJT[m@5[YOYOue;]ym+>(e],TJgK?
 XbK#fOl4]1V&9AW#co>gjWjrHljl#~?9M(jbTahj,#Ahab[3txU~>f&6r#Jw^I(f8O1K:D&%j)gBOOtN[IO@+k>)gUG$lGJh:C>
 %NJ<&d_XOA&MiqZBsJNf')G*7D'utpmAm;V?KKrsbZfb]n~m<@q0v36tf^;]Im:_>4WF>]@7Yc8Kv@Ak2C<wm[[0&v<p#YJV(ug
 (S)le:6q&FUfQ;F)uO~8!mGS!QH=LS%=.7.pLS6D~;y4j:rFj+BgUnF]LbX.om*=U!@aBKoE,:3;WPGiy%QNSuMI7zJ>A&LjQJ<
 kpAB??_$sp^PZ[V,VhnKE)]cabra,rjvV^aQ^Kq|Eu]cCm#SA.e3Vj~|8T,arMy~pxvVY0uYAV5]%wLg%[k]xWsW#ho%=<>L_5]
 c*ygY9$b+2G2sewSNMGpA!Vd#;BD2or5&IvodpyN$,[~b&hWsh1&kVR=kM(4=<O?O&DJ4CIIpl_QG_dke~]eiw?^q!J$[OR42KV
 a^gM#jrJ1Q27K62;2Yf:x:]41O>agSY#N(27*,]GJc43MU[I1p+=:IN@7[OfDD(p;tTFXx62Hiu^1txi^_E9?#'fki7EOHaL)Dd
 ?+~b1.5xqiYHV#z<dm~H_?D(h1RTH;t[(L%2@.&>_(fnETbGFNQU[S_>mvY+C:f)Vr~HkM1DbH*;?v[63]+?l#Yzq@Iue7j0J+C
 S|LJ#p.Lvo.eF2~p5u:'xJRl<e9CDI@bcfYGZ|Owk;%e7Lg~YGFv0lLmKaw#O3@JH,Zkfuk4s*brS2e^51T2*v4svc^F<_nk~l?
 gYOq+'3%z:+Ws#Uj]!J_sTH@yM]TJ]eihlvRyR17z6~iG&+Z7j:cAlY5r+2?PGX;]yrY0S)HSn,3bHK@x4v(r6yA4D!R~Xgt;xD
 6!yqEkW|YgTIaEK]yZFJ9~OArU@sU)GGQ0)r~dYIhiU[lc_;5+@EyuB^|WzgCK>2|k>_Uh~FhBA~?taclnGQ|f!1i.9<Kw5<@ES
 _95U|o=Dzy7#ev].K4ip&AM3hpS[3*aWa@2'5?ua~i<bR:Uuk[+,:t'Z+@fRfga2FG~KI=X,5q2KM>IR;&6ZmMvkq|DH(.2,yON
 IBfOlXuj^Te#]TVR?2rh&3$N9eM**nIrRzTm4>9a>nbTwDC4l|8qNr6aoW.,<u;ZL93c%8DkCfa#]Ml#m69SkCCidacPjyXFCMI
 j'VY%r|<*cet7w8Nm]JSZg#3]vT@<?jXPjq'pz%lgG72so2lCz&#o#(mH4fijfywS+3H5ypBzckR@1*~&MNDOB.%#IQO2A6_($2
 CfpWab$4Cvdu@1=ak2.zx&CjjKdK[WI;Spk.cEjAF|C5*r;>LxN_5Zd8e]:nn(JcF3!<&Me3C7]KvO1IU=Kp(tNcUTam&AMwIO9
 RX+<MHiVhtzAz$k#RI6D+P+;iLNPsqdOrJT~.wnYxn3?P_^E=Ql!bD9ZAH?f%4,9kpK@Ah^v@NYN:Se<|Bi#ehEL]B!+NmpbE:.
 Jj5F]3e~KMp*0b!:jt>?h[id6FFkM15'X5!cr$;NAUXU_56$1runHQ~'pe4|^[Ti(UoP!(9L.!m3%2?92K5J*'Zk!loJNe.9:AP
 S80$BP[D?]0dL&$m<~*B&%dXIgr9YAu*>Ue#bGIf:lDO;..&(TwOJg>zjyY>e]Y+ul^A[;EXDe|xslY]!WUgPLQB~&6[vG^WcLX
 rv2@KAGj[q*(|_]8N87GhR%q,wIJ:_&])JR9MLb+;nn_^eE1ackXtS6gwBwJ5[!Ea1N[WcMX+EnJ@MOIRS(?9:X;';WbQTczx:6
 Qrb']zb>F+[n]M4_$R:|((nFr%tbftRO+DaTU^b)KJYA<S4FxeQ&PNml)$ylNU$r1OUM<|r:<WzNGj?AA~EBo62A5t4cUQvu8Ez
 9&~,;oa'eMbN3XB9RBW)zbKzXZ,T&&JrM):Ak)(#H4YKY64xxd+L'YaKvyGA>&6%xX,dPI,V_ngMSg5^CZU79oBmdp#ANu!dcF9
 Bz:;J@>n(#]7$k*VLn='IWrQCJxign*bikCm(<P!~BbzXi1NU]TTkb!ig(L1ZS*RO:m<Y&|,.4Qv.,R71ap)pfX,iriLSFMe1Z3
 cw&h|9w(46,SHkD@,f*WvGhx]x|?cI:y3#f8T.h.%UPmtN@I@gP4_7R@uK4]]=zUh~>HDFWMf?('aiQLhf3AKm<u|H>dSTyOw]A
 [^H;sxnDT3y~0nluLL#f?Ictbdmw.oT~K2|4lN+^_vnhLLoEe:q7ni:dwnm32C:l:sq+O5O1%z^4PWEX^sQi[c5<v*V.joX_lu~
 jF%%4S!ih]ml^<EkY9$O$IZ>y8H.FYvF3S5~&D.zkYQ*KL:[CGeIV?)DZ&p9!cxE1Y_K[H'yf(AKP[O*T3dmeR'xB90PZcvpQxW
 CDaS@Jg9YO2c1i:NX?!0FFW;@DHdkrSnF3uOCx[,D0D(l<R9TB@1(+YjD7SlON#F<w3BO$2E9SgTP;=(]^9cZkczST*U@R:LX(u
 qsJE5PSYe.E7dZkbnb.K%6.d917$>pO$sqS[&TDSJK$TIp#LY=q*L[Z~BOt*hp?t47Mi9#(M<rik$'JZ&oQ|)uyR82W[uuJTA(]
 q$cMlsL,]yWog'Uswp#fI_W9nChQM^)[ZR6:g7U.KeT[KX?>N40z0:7Mqh?6hJqcn*fg9Cj>#Jcg+bv&9pLX*QJ]9Y)>Q?;T5:j
 Y)Y(44YAxDm]~rj5E7?vpgHiSU?dH|stFt(j'iD0xc:u&Pw<Q(Q(%3)A$(gG]~Xvs&;uU|SIE>*<e[3KSU1ehmw$lS$l|bE6+JD
 I[TcihnbLl!0h^K,ujIGAPYKFJgoP<#96ZI^IS(pm50obVHx<XNHBV#Lx1v6;4&58y.#O_0r)|?HJkE3m$nF.YVf%5&w,&I,y]h
 Haj>=4+bapn6sw.!.(Jqn%L6Ee$1oCr^]$<Y~JDY~Vw#s9x3@.jS9ugg8+K2dIE%IfL7c96NFEy?kj?jqazZ5Qa8E5%52MI,w@v
 ZN^;U?MYAiIHrQ9pnaFRB&$Icb|+?ypZdb>SSB+i3PlgktqatAJl!.v[!z%UzitT.U#?':5+3)bHwXv*T]Pi45.md]?(FkCi4Uf
 eY3:UIs>*vH5:YC$YCcL*(fMX7DIj(VSKHF1P[TS$OMae=7]R0HIg]CJ,sIdz<Qjw1W*rswK)MbS62x;|KiS?m+<LE;lFvO6rtm
 :U:;&gT]GQ6LTNx0I$V%N+bM%m,m%)0f6|rYWXy&o:T1oLqlb+i7a9a0[Yhr7t#N:F^]o2$OGLdgxUn.%stWTZm!e<Tb]dVLrPG
 _xhJi%L<)%I0Qv<M2^GyUPf_t0b(EsEBF(=k%!<NT~)fMeYMmxLj703w&PW7uH!V],r$8C*&W<k($rab21Z$,1IKhqC<M.Fe@e|
 <NW~O'3kvZ>AfdH&~Eyo2a.s2NBsP8'y+sfl*z74WL3x9=emS[A$x4iPjldJ?(r@0%cd4t;)M(=3tljx)>JKO[;z!fP:mSgH<k1
 ,2Cgz1AVpDqg(Q_bMjCEB$hjG^eb[hCcSs1_FmdDpVJG@Y^l^L+BV^I!>3+zq87b_RdH0p8$rm0A?5,%snB1VErCn]aMI&akZHv
 !M&Ef8$dD0Y?TtcQ;G<T;5D2$WEy^WoeD6kF$&[)]T8<Gem5:?7BdQ.j_Ql46]P7&~~X@F.1bfTU=1rZx.)Eh33>Vxw@'4Lot'*
 ,cu%)#li~RG5Bkr844@F@='&.estj:Akf,V3GB1|p>Bfg1hGcVJycS_x[s6XVhfM2a2&:20KpmH#G?oye%XcLH:Mo6'yO~Y%X<h
 ;!;XSGSG&hA7YGPa|KA.7j)CFXp,CU*ausZzeAyepLQRP(~1>^exB7=z;&]i3Exl4HFZ)OHC4,NfFlc$TIN8BPh)U]^Abn]'ScL
 V@Hf6DoJfqK&4sS<YbMSXSf0gacMmu'7G,lB>euIrk!A+dma_b(;HD(#lofynK]C>+jSv9Jf|+h4<1]ytKq0(%rjK~5cO~c?G_j
 B'nIL[lv22BnXj$GB)CMS2bPJBdQ:'n*38E'zk%X8G^:[9v1Na*,cl2@[x_L2Ko1du~i_'&|cbXstv,uBeC;LdJ(WNOb+',zn,.
 &JWq:(1x*R~F6gpQN58q=.Q?6AE]FEue:iUP^'?V)6r]Tx.rAVoy.#9S%C;'_%X8tAzBVarRbjBVyb+bmNqtHpELJAuKjNbkHUS
 >P.VrprXM+W)@@>8K20yur>o_DyQToAnvU[q,GsQ=9qw+G$JB_tCHxcdghARJy+RoF(Kt['D_mc$2X0E0_KdJRHMYn;^iM=n|IS
 :^oAx=wgUxr9MMtL~[_)LdV$,&VV3oC>3Mti^]U0sLdQj<2WIZOME~MS)+o8KY9ZkaGw$xEf#I3wma9?K#,@BDvL|%Q=;mXN:&f
 7odTN>'cLER&?;1cFk,[g%lG?rsu.W5QUpDXS&&i#%O$YV$f;3y'<BuhnhX*Wbd:gF2m)pZFWRa>a@G^(K7YVd.tObdw~xA[GA&
 Z?F@r@I9Wd7lvhD:rvem*)^v_C_qWbbLiE@!KXestJp.fkW5#j38lAKlE6W:bb+guep=x|Pe_u^)0|3m(I?O4>t3<9Tt|:MYz<J
 vZ.St_e=6k[^I;7J2'Y=hnsrolVxw;O82mfip.o^gA)@?,aP*#YZgHe!..'LyxvDn2sw]V2|Q>4.ub1s~GiAWA6cb&xzv=KHh>o
 09xpunSF$2gS>Zl~Hp1oob<nhe~XVDr@8,h'Jq^#E@om:QAepC6gfV''JvCs~jqN'otIVmsRZz7XFGOWLjVAjo&94:&UW1.:$.b
 cg)xSC2J*<k'a<gJ,f~rH(2ZirjkI.]8!&fx=AEt*@t$^@fZOem>Nr9V~3scq^8ROe*cgV3t$3JQYOg~uDpq(Shw:7?:ynA?7hU
 &SM7nMou85*a?tmB2$%ToN)6YeNa.7y%;^)r*UeLda1>2FZ_D=csc8OqC@A?(<$ViqDV^vdHMfuyQ&_bX~AEn^PoTCB8.r*$qkb
 ZIQG.w#p|wVDhHrhE38s1FmYHdHi37m(tj)9!5q?41G(H<Y5~fcaqh7o)&ON7vCs?$cp<mBU1v]haJl+TgEE$l@k&*kWAIN~in4
 E[eKU;![FI8wJuI$r,%9Qxv(7E6Y.nn1yad_dPFaN],<,:6GpBajyR[bUkW;9hxpGP,ZrALP*D=c[u5=)cJIM[K_Je3SQU#U,_x
 XGWBboh^BgD&jTn:&fS]2]S0)Ebc:&_w$|XS4HC_KP(s39f;Bn:J6S$t(71z$2&DE)t%n@e*:.Gp_d%vB8<r)'C$^MM]*D,2l0H
 bv&hx>yxJ;9V;X9vttRomcgC'$9<LBn.gnwY8kp<oI@(6Le&TU;NFC4b#=)1N3M~3^&9N8S$2GR&m=r8h|qKR4?UbXuF(^u#;~o
 N&fS9oNGOy|ab%W8ZE<u&R6pzQt9w&AE(dzbjy[FJ7XkT<zESMIcs^l3H0,VfZ=hfEWAvFScV&_|Qkpk[2]4nwOvfftHtx)U054
 MY=8#hr6!ot:@IEtYsppA#=?y<xADw5se(o>4N>NsVonL8Y;prmowd]jR~5vGdq$K^m+i5'NQG&Dh6w:CE_P!QMI~nw.H]4HvLd
 :@kg%RObQ41IC@Hk[+3^'(6=B'P<LfpW&+]je?[RPMYAHv35HFS1*1'E>b)9TN8A(apDD:*;:j,+,@]4#>w2w?^&Cjt+q7z;wt*
 czd1>z^JU#SF&_h7o>QH&!ZyvN+,m4A6+h&;6p2I??#Y)M^|_FsY0NRXXfN#qphn=?FlI&4g;;xwI~Wtlz81l)fjN+.m,rQB]f)
 &]<~v|lvTdJnlRf<EnTOJ!)umwCwh+5s0t@A~cPkiM~nHW)5b!eutG[3%^vV=Ee5W>q+Pn0^!yPI*il*^V7T)G>GC1]$q+)vxkU
 @9&PNuTOGGAMcH(sdqznE5o6sH&34_j>Y@Q^8OLnJWtrY:s$I$_odPlKlCbc;zL<>(~anJo1gFvZ@%^*#q?2b9g1P#@[i_BrH_z
 E:wJxE*CiJ]1Va'+Su|6x31Xwm!cs)x.'s<Z;X&U2:dEsD.7X(qvsI)IRwUT7DxoS0?LT'ue2tULI5|6hRBaI_GJ(tZEs@j2=BD
 P<=~mcV7Ui9OnBm)4QBMY|BGH[TH+N]q.]S$9a.[q7@xJwwmuyMKEPS)+2C=BCwZ+_SK%jscoVIxIg;5+eOrwS3t>41CfJ3E=U|
 Q_<5?Kdn+C<QHnofZTEJ9oK(WFD(jxRIfZ[Eu3!eX[kdeuUe5W;Vpc~jXP6sBEDl@2Q#6NI]:l'xR|VNjnD(ZQjFQ*,=rqP8=eE
 pqyIDE=Jp)m4qMiS>to=P~I;=^1LB;.FibzGzSOpBn*,n0z<kN.1FoR55zlufP)SU7zOcxXVxUH;J3f~B9pv*LU<nFOuy!~QmWv
 %Ww5aa_Q#yLk|Ij!|pQ*kIdIW1_VDzH!Yy.ZGv1+.]W[1.q&dn]?XJyPY?1+O8_Nmm=_[DuK)$)5._0K+<yia'uV@HXL;W,[Ga5
 q!2ER6.Vi|M(s6Xpc2DzH?F'=Dvu[pB+I)kTDV6b]MieW)wSaD(XxPq<MF]C#adLY~^N(q[kk.AfjVkxIre5*z$dp9U];EB=c@s
 d8Kn|h8_Ae?vb$cJX:S7lo[~&73uM7cEtttL2H7*TuR$j+x2SMYsj_Kl7UQ4MyA2JH1+hxaq%XX'DZ!?+!~c?7H^)PoY4wU<no[
 cDK!?D|+GyCA%ozUc_(hel6QE7,%xo)&J+v8e2F=M8H[c7(x_]HcZj;C44;.|+n~?IG$Hi!30(_Q5T5hZg(P)hoG:HFq(WH8YUT
 W3?<R?,y#]mv@1W@%5b<<gA^WY>nk1A7Yk38d8G5rYpz+z,%KdE^yV6Y=7,2qRZ=X#37GUf#E]tv'Zz+[wFU%k<TZl^M>c;qmVc
 bC,$oi_j^8jkHrV(MF84W6_qyVcvXws%ivT^bR8qBC|%Tvm@aGas%v|SQ~DH(xdnkIe+Yo:NOH[>78CsR^Za9mlJJ*|:<_jwy+C
 4envthwCCT56&;g0@wn3js>2YTl#:S0pm=)wcgX5xKT%WCTcS$uH.koO>Em&c0l:;kXXm6y0&J>:G)@^#^vM=Jw<>S.VKO_,VrW
 muh*>zJi|GMYkU+f=_Yz<7]BNc4mgaR?1@<b@1;dTEPuG|l>T?Qj,CG8a|Zqfl2+rD_[_Qx^~itcGT!=n_YE2sD>%=sEJ1YiRmq
 Gt84P),4:NA_n:Uewq~mKo:X;!,S!sYLR>EPFoM**,1Wwj>C&l^JWS):c;b71l2,]x[IID';^KBE%m5[;3&Q8tQt4z3:($(,<U?
 GNd19L;j!(laLjA4zO4qz3z%dM16TIdx%]dl;[dW.goPAKpC!X(ST:DlhZyF#bR]o'rAilt,]W[ORUtbQLB[GeiIDaORz@^+thc
 Z]mI.L|@hxor:zo*Xd_Vg$dD;k*nkx#Y@S(q*yJsq_n3#Sb!S+4>fl+X@5kTFCMn3bT>x@L3(zs&bA!u)=4|d%llD@&N;DEwN'M
 KZEqA''6jKD_JDT!#OgCYQFfh]nJ);m'2?mlW&OK?pC]sdT0~Csg=0<ulfU'C#ZfHrxJ)TDz|1u)Do3BZ.BghnEKqDtj10'i+cR
 YyC]U$Ei|QRN(6Cj*pc3cN<mhKaeaEro?NoU%G;vCb+oMq+EMfj.x*#V.Eq7w3Tj,:PkV<'2aT#Kj$j|Q>#j#H&v?|gItGSaa^g
 CV)I<]8#A;DT,^>c2ib!2?~|%8Tj~^a0i22|(r,0!RX+b5R%MCCJLXyga6p,1I8IdCk;dK=v|E)k'bU?H(U.a3]dTH=Zxu_mF:#
 =9~PXcY|#Y66lJu;DqfCMiRAsD5NUnvxOH12uw>(QIpGMvJR&CBvXP1cj^FIp9XvTU2+dRL74Tb@&Uhwo26de)&hSNZO2S16<lk
 &O+[E0T^T*&cym)kCJt*ujjXII;Ti[46#JOlN?XWE2yB^Qr77XXjtB]?=&NE?QmeUQx6z<M7yPEj!pt|@zbDgkg=U&zYqv9<Xc.
 PXpdsK~YR|MgGc!g((:'g!np?Do>PbdkAWnCK;XXkac!6aDJe#LQ04Ng~rk4FpES2!3Y[MvsebgPk>@yMR7e1$%L41]XTlo&?9.
 yEQ&g;2IZmGTYV0Q7c]E7)ln[DZ>~]b0D98>GO@,OB6FasOMlcOX;8hZ8WQvzm)jY90'|B_*+)]YHCHj,k8HMjPYtJ|^|@pD2kU
 IW4xDFk+7r..YK[mV^K%g_KNeyCaf9LhboV;Z(0e.Y2>fmsWbJW0O~hK>pnJOT+sHjq=K0b,rlY(L(3WBY^iOvsR.<1w2,k]dG^
 ,^p2=Kd9vJw|i<.d=jM&wx?yaw]lCLyd5rBl<M)esXLqFwi2R1d)&1oiZD'HLQZ5i$7JM*#9Ep<Vb|ojPtQiP9]tP~mfw_&yx@3
 e?@=.Y^nwmHZC7a[rmg(_%OKCN86MsLe4s^HG*4rn(]?,nv)^B(SwQ<4]!zE<i2j63aF~Y3W[SQE&,#F4zeCQMh;DM=Fr'6u_%*
 M8+a~#)aPv:$Z+F3C[w)%?rvL'W6%1&?0v5d&wAcUPq0n$t??MBK9:gmOf8s'zl?HqqI]bhok.hu|2XRVNiKX(*8Ix@%4oZZgkj
 5S:+QmU<^o?KG8Fyh:(v2>|a1jRO7L:w<NGZo'|W&n8+E'.5%10fNy1oFwcF:#K;Onpl#SbNFe<YJe#rhnrU2I,X,%X95)Pe%fL
 iV$nWwQ%^MD+Bp>o~K00P:laZ]epC]y92Z<0HAG3)fQr2,07g#F;iUe>ptY8aLfn&kMDJ5T*6*l[bvO9jJ8[(qV~CrDMw%IsaRt
 cacQ7oO80oWB_F2.pr,Hn:$aZ3!t2LT*h#0?pC|RC'T]Sp*OtE#ar];?mrbw=.Lfi$6b5c=6|6~[yooI6;:pLs&$m1v'>neG7>F
 Fc<cN__Wx2Q*0wr#&u?|!kz@jGpnws&K+0p]Om6subv1$mbNmwH1H,gs<kAF$f2!L6:EB?CP&9%+2wgFcc>Xd2IjcUw8ml6RbSQ
 8:W(F~IQ9CWY=yj1KlDr)#LBotWNFm9>)xCct]WpwJQa7E=v;&5@Ke@H5)eeIca15Yt(X&%=(kzmh?Hwaqg+,yqW3w)1oLlG|*e
 %je=AhK3oHMf9H35a6e|igF,<dNdDa%7Z1|5p0)suYq3y1?^QsjWQ<Ilp4A]q@uV?+DTro*vrf)?wGSV>8b?^?(?wb$?mA6'*q;
 l7|y!J(VoC)*d),C(xM]>?Mh_!ktzDTfS.pp$::V2=G9,:Otoz7aC.35ele:5_Q^iH+POU25j^XERNwT0;>p2aMYKXA2FuC+3|o
 FR(rJCXijq$sj5E(QCa[e]gQrWb+Y0;v^]e1<^|yHP.PZjOu4T:+fI6Fven&)W@u<B5$'%|*Cr)APxylN|t$oyiqrjVW~vk4Hss
 $cM3VV1)@m@DKr=U'a?Ahu.o:m@H981dw%51iMKiA^QAXXnUE4~M:&L*4J&aHnkszVS|^%=3$s.'Y=d1OvL(O9Y8k;#*_)6c]68
 ?K_;8'K)K.kgX@=Ox(D7D<;c_sej^,RR81vE?:dDI^eF,^g^NurL|)[mpxa0~2KB)F<SMExF_d.7w7A_HShbyZ?;*N~?StmsQ99
 %rp;rQl<Sm'wPPca|B~i3A~roF<w8%Q2&J(8Vu5=GL=:=^eofqZhJN0(c)ynO;_h!+YQ_a3ETL_5JnE;(Ir8MJhut0^CY1q$F]T
 3Xw5^qQXmhc3[k%r;O9XE,&nzbk28+_=1y<Y_=V*yHzXPh*zIgF(#_o?zOC^O<U@gzNzbOG_]ukyl]Y%3QlS+[bYe3wtTbeWtzA
 5%5#r=;LMg4!!4%1QjYu2v#C&.K]AoE)WDL9e>YGE$NXh<qWSr3L@d9e(?>Lu%O(b.!jSM$F>O@=Z=WC,jbX@PT+z[a*ta'KPh@
 WXblP=B@F8o?aY2buBnA*7Ts<2AL[LqSer6&o6Sq$q(dV2da&F]<9Pa:r1yMLFSdo71Y$h@_sFtJHCv=UxhO@m1xQgPLxy;|xz8
 TkH6f$w_+J@n#<@:OdZ?._J$(mL2'^|1kPlT2EHcXG6(QKfP(pup)H;ue,ff?M|Fm<wgyIMtRgL[|7yXPF*V2y;tgQqxT;p!aP~
 ZE0qi=cZsGS&$YWCpe63Df#LbS0xPpjRh=5HgIRMEmN%$il4lZfcT:p:?W@]hZ|d<L!oE#Q.#AuR^6#3|ySZCs(K%kMAX*71cTY
 D$W3b*zh53Zb<6KVr>s7^uATpWj5aU4BCb#?&]XoWCXMTz)VezvEgdTphqp@X|LvrB=phRjUl@RI3y,p0ppBpNT$uA9s<g;K~o#
 B3|Z^vx%VB]=a,>A]!P=!rTPxyY#^|!8~.6'B(.KvT%TRZQ=s+Wiv*I_$$.8[ffX]=KX=J%I_Yli_Q35>|on#e#c]I3B@AQRU^Q
 4]_u!2V7kjaF9AeF!n#Z)H:WeIA~i'zcJR7?LQ2ec6TErlsO><@JE7Cn6s<O~rYqQkp'kTY9*J&n*gxym=30XYWMuk|Dx?;A[L#
 0$n+0d@UW~D+s)krr@H6@]C^WM<|,kZIBtZ2i&<+Vu&Np'Zo;(g4y&U5618V5!Q2G!)Y5tdPSjr*F6[+F]zcScr^?i:GWVLIGWB
 Qa_yiR+;Vk;Xjt~.2U!5nauKUCu%_!GFtMsKAzF]Bk%@9lO)]%IiqjmCuPSp^mV(toW,A9bmqn>k=X0d@h#akiXt%h1L.Y~c:<j
 ,&eUaa'2<U$rv|L<g,1jqy0K+$7_O')ke,cryACe@tHVvw9.<OZvQxCU=(^*d.^FLa=C46g5p%KW19h$bBW'[SZV]E1UQOb|5:'
 X6b)WzCW:.<pHnBqWi&Ly~7okc7)p0zfCj:xJ@zK3WU6G]%;s5=cyn$ptd2~v)drPtg@r:s2Em~@*&Wg(uK|zvRI,*g>BWLB.Bf
 NxLh>)0dS;yA$#;<8q6uiJ#%PHSF(We]8.p0rI[pmgnJ:zOnc[X)GYm@ortyT^2,:+cndK,=[H$|tDCN3*)Wo4qdjX2~5w&sv<8
 jhg!<,Q[ihL_K||cFH655;]_KrI3~2NnBvCYSmz~mfVctIHY^ZU>;V.8Ec!BL.]TU~i|fA]MB8@t>emymE[5FaUUX9R0,qc27~P
 &u~Gxij;xw[aU9V&*+_f=lMG1U(%b&E'8?G3QhRLtQ,(PDt=(:'@$0''=A?|'GHrE7]vr&[_)$stl1@]0h$!efma7DTpN9J,>3'
 Y.p538js1esD3o~<!$L22~,F[3yT(Gg1Tw__+k~4R.,tP8kUTJj[I,NIy.$6u(]2a:Pc6ATXIwxU$k7tsu]o8TYwq=7n^b41Lk0
 Zsv~%A%[|NOtI'p.<ciR(Ue_,y*FrLEvT=WUGBCX|Pf>D7L$(AiVcXgTqD%[l1@gBpXh2QDMN*J),(KiF6hk2[Fu,Z3]]p.%Sg)
 [:hDgD@3)v7&BD5wo257GV<tzz]ub19N0rE5[,svW%p(hLAm;OCY(jNlz>'m=nTLaAhn|7eS9q%@Oz'.^9gvfLf;M[Vkvgk=J]O
 :wdK6IpAs^EMh.*kHf+'VM?]'!:[<R?a'?d)jD'dP1>nA<oZat#U1|Y|a<6Q?AcC0>x)Rv_PGYE+#z+M~xNNp$0.p#m#sNw$+&W
 LgZsw7p,Q~nid2IqZw0sHLZUw0!'3u=xL&'3NxQ!y5+cmwjw_Sa<3N6(YW;FPM:WMOC[5ZE3#%wDKLl>(n_Ew.?suc5XKQlCNJd
 .Xpg@vg(ye752ZZHM%]Wz^dSJxwI>;Ob&CL+CCYVXFzZ4X~j^vtVbu1crVfv_>=~wmT!62ENt|j<>(L>$*=*XZ)(P_m_yJ^Abwo
 :hmV%jx]aY)aOAhla<|()jdW|OV+aMIKauF](r_'4Gt$'?,sH<TSB>6)8EVP@HiTdkZn#Zd,jMDZ]foZ1.OY4dxw4sjG7*2>YvN
 li0pm$f(t1J@q+36um0~;I*OHfC))~!DVBU_+Uf[U$7HfH_:;*_l2$Pc6N6)<gBtmuO=Rr!n|V@rj;|jO@QKrAg1y6AAkLOV*:b
 !+8M%~%7a.RKiR_eZn]<ZqE^_LJ?]h.:!,vjgGf))?oZ<_FcZYGyu|gi.Pw]UK7MKj@+%Lne(LA;$KO:Jato1>geT&a0@(vLWkE
 L:t4nCB=FifKif]*D2WE442sj&&~Ha[Gn;tFOYaxO3_D.&j0Gjm.bZI_C.p5A_KZsDZwU#RPH^8mYk.D'jb&54,3YJQSqSw_mLU
 ZOB>OR'mb)70r_HA$xBR!dV0d$qB2a=!l,;YkLkcTpn%lF]fiZH=%dBi<[Pb?#RKOVov^r=(E,^.i).9*+FaQrX@.AeTGP~@#:k
 xbfE<;Q9oWq_Q.cqcH)0I]&V?2DI?$aNLamu.RHeKU'0tJh+;wEIB|dz>;UY=%xMRD%vH>VQ,!0B6oewz>jsfZesCUD.ss$r0$L
 ?[cJk!eE8P&XQR(z;I~ck8H.D#Fq&J>.ju)^>ie)rZZ0M;s&xPH(hP8mf)1^9[y6DXYpw#+RWYs?$D|.J>+d**O^361UuNu@qN2
 H&>r7a0%JNO+T~ks7hG?6e,kxhtDjjZ@wbgw.UjK7'xO)!hAYVGRp.BzzyWJmRURb1&o4uAvv+GG1AUDq5H_Csz;J$C>yfRF]mP
 PbgZFLTHBDBu6%Nh~40Ess<@~pyX@P|F_ZC9rr|;jJEX2auazcLayujyI]1,@7wJP|nPb$tL]:_fP@D[4B^6])fN@R$L2~jSI!k
 c<9W_n+UNlvz.vT*?Y5$XSf]F@Im+uIBQoV[X.TX5uA3r(r~=crUL.&Z,|.+$mZQxMQhsB~AwJIKS]fyz8vNgM;2.'i]HZ4Qpj_
 nC|zkEq+PKx[p$l%']ryA;!)COm@6+g$2pqPjvijIJ&M7vVG[Sa+TU8+JY?bKLgqF<C#8WH#oSXcBPTRrn5|EVOLNFV]<2cZx(w
 ##*N!BTdH6A?pWWeRO%sTtl4.n*(?%Of2QY,RT)+7u.&O@B!lzVn)h+zCd$3Eu;bbdDSTiF[fB&m]GvYf#vv4*!gU3oineL||gh
 J=6,.K5(N5h1~+oU0S~y^Y!+RS^8Dv]M]7DMYF2NQ<8|nt*GK1>gqlF9D<Hw~Cs@JP?lw6Rh|Ap(#i8^gY[&D*t^U;]w3uG?p;H
 Mb(JZb?f.Bp0,#]CA]U0tAtR*HH%R?oL[xf3H.6P(CZxJUq=im)4F*<'UJ%iYVX$yx$dqX~H7b9mJ649dAbbkZ[^OBmtAo?QaEW
 H;aDDcc>k4P!FHV<BIL)=e3IFg$F(yR!w6_UD|31&oGTuk>GPSjX(ATWyCf[Rh=q2VhY98hN;o],yd;VD<iW^zB$$9qO]yqy2Jl
 b4(Yc8QTbdWN~?[$Hh!F_*opmW5qV)u5?4W.a|0+%Nr3$vOo.l4g'4kH7m5mtR>9>[&Jc[Z^_a$6>)^:[Z]H=9>,S@WhVD:^E9)
 |U3P;vgrO>FeZx?O:,,#;u2^,Kjognmd#=)WshO[XUveP6,YIYQAHPY?&P<:WmCTPaXUUC;6)@oG%b_;J.HI9aIs'&_V=[Q71~<
 v95BPF&4PkgWDkQwHqOv&XJN%!#PH0*C63.?(eMkmn^*1|zy@,@N>8rmPNEpmph2zH:wn[_x?CLV9UTv&6?W9_G'IoNn8l.oY9a
 9f5Vt^7v~5MQN4qHG&_FJwY,@A.AM1JNi=hlM.Ev2yk@p5@n?75*LZ5iz4<mQ^vGbUU!|qQJ7GeeKv1:NLb1Bci)fI_iiu]FGh0
 BV'p$mS.Z]s+>f=0j1jAtvR8(M|$]%YVd3Yd&l@BJ'pEx%i;R1JY~$TI|f?)lLb]YIo#IB.>UaoQ[%sN._Bp|;xL%.VAYzIm7T5
 Akn<>MCgI'!3x8M*PK5xrXx#hNM$d6~m2>e~8@=jP99ff;En(>;BZbgbkQ.7v:>!m.x6:J'3)+B.h+1PZFHt,)tGd;,WnkTFb_K
 W+y>m$D@dMJ?sL!F88otyE@LVx+OCC:>o3TiF2~CPjw7,2*EQVtgI3t83V7rN03,XqW5!&4*>D?&nIy^&J6EP$P^#!$BhZn7*>4
 lXz^h04f+4<Op=n?X+5KY,hkSz*,hy5OoN9$hO,~ZA5)|myb'qk=(O.auvS^cy#(D(PV2%d&^A0MIG0B,(m0rtkNbGn~8T~ZgTv
 T_l5BnJj[vd]B&iO#8m6C>:L,D.PMFd6cZ5YyuinW[#EGpH_!q~JOa4_sb+=0~L:?Tt+l+7H;HWng.Pg~8N4,!wuI3UQ$?[MJaB
 Pp&cjQ<y.xcWMEVc_p?$]@3*<5F6q>Q*4Y8K:YtWRS3i(.#g.Kn|G0IhPJfr#z|:bPV?iyR#2(^Gn$*P!]Kp]Y^?.0Kmp|&Bhbz
 tafYv82D.3UYB7G'Qu8ImI$W7%3I.uOlJ6WtplcSn.ikMw|P|V1SQ6AEC4Ew7rs!PR2.!TY0&>bg<(GUt9?AW7^J_$he.vx>Dda
 5x6*]ibAx$)h2wynGlo>k183_z;S_|dC>zmA[9%KCTLv6fBSr#.yOu1Yl''*'meA>8S0)ysW!zZ:*pwyEyoGIN:7ps,A@5Q+t:Y
 DjGe~$*mtJ=@W@gf'.m~l23(USTF|(cye^#Wm9Ac'+48Eyt&WEx77*srdP]o]hzeTdXebmd6&72!MDiD0h2B>p>7eSIH|nFbgMS
 ?kuZayAye!^^9X'~1U>=bUqO6u!0E@[e%oT!M1)[w&7_[ez|5kJf&~C*An?v]B*B(3J)S^hk)~j>;k*N@Dc$?=dQ!c$LB8nppu<
 P!Fjy'#+w%aRGx!Ax9<1mW*Z[OM]_N@1l+XFKdLcqmO6uA[^IpjD%e*5K*zSfP$]rZO60Q@pz2J?'Q?v.b^4S7pw<w]9b0MmKrf
 m_,KXScB<9yZfedAA.Q=8.V_Slf(%<|lrAxEqHPi;^rKGW2EqOwpArqQ?#)^7YwtFkg#nWentD,;r,j9eV?C'w?3Qcwj|)DRi%q
 ?LYzm'03;vpt8@fmdZzwi@bPNq'apEyWd6HH:OslgU;KR9nWJL!Ab?c.<Na6lKdiqz]r6SdD?yG2[pi6]f<v'kaoXZAlUlL]%&U
 m,M6dS.n>ryoA]WVP5bsiYA<rs'[7wrgu?8UEKQZ5$adX$K!@.[pj~E^gVCHgICG2,*'Z_oM.Fp*'tdd<$LYs=2)m*wY2'7'?D(
 rT3zOP#vNrw3fzjP)?+Xo'5ePe1d;(':Y=E>q%(,[Ip_hEkTIH[gv|<g!?(7G7>[bXK8vytyXeCCi~|yO^VjR8m'dy)J&FIu!uE
 79cBgVZ=L2,W70yx])%+7^*FqM,w|$=HxRxy[=xYd=eiT@pvqut[>CM'5q(Bu7ntrNT&>Xf:W[lkN$+ZEF6Iil:W*,jF&@boVT^
 nq?Ch+M#%&vM3lqAr]|'21U?p;E3dy_?rbb_EcN8>CVJ1EmDuT3!h=oNmGEE^0tOPpo)9NY7T0sR3s#UK@bo4EzL5C^FXM,7vN1
 JRI]ejPLXJM~O,IUS1A|5br2wzdq7w(E>qJshk6ZSdYof#~RB,oac.&#GkM+Ymm'CE|Prt!R;Qi,jAEI]4H,CfxqcF_ay;FMdxk
 'h0Bd#*k|sia2R<7Zq>QBHaH3lj_5YZzBfV0?,AP3<z&w^Qb5y>u:G@LljFQ+j&|O+LEC()X@yru2i>Qj6pQ!U@SGUdH%jD1wOL
 6jRg#<mC8f(.tEli?)Md>&qXcj9=mhTv=(J]SFY+vas:b[o4y;Wx@Uj,o|T#?_D$OY]~>YfhEmnAGi8x[do)=JK';5zRZ8A002H
 o.*i!mNjAK%'=<$|.lD5ySuva$!SU=2wO*guWja%oop9w09cSU6?(xP#[W,&b.C1>o[Fb9qN+hOf)o@5lUwd5NqYvVV~nq['y?3
 ASq,F'(fPS12A(TO3f?.*X5RSsO9ZWz,VZ8fnq&^h.*c~>JsS:9~n:9F9@2SypVn7BcgUtP27zi]lLI4Sz09WMY|g>m88xJgH9T
 $3kI<rHM|oL^E''VdA2o$zMzJIeRl~VikK~KeHe8q'v1Ah:(3@0)ci&#qozS^UGEwvd[;P^mUIGopS(Apfeg@JdvIf;YsQQ64t.
 i_bO;l'<4B#dNI8EGPpFu7crVkpW&2+r''CKppF=&XvjmwtmJL+9a(uFV|EWbdO(iQ;vYsC.#Kr5Ey<ADyjUd];06mCMVvZM5M[
 m<*4)Bv*DZ;d%;Gxg:yq3Gs<2wg&%AUtvIRI8Q.[&A]@E77!smf~hjpd=ieQC+FUQq!Do~li*.WXA%8p>4OI6?ecqqX4_,le)3R
 zHYt)kwC7R]@]%vphvWrgX^~;vXSvm;%aqT65a83g86iXu~oySOz6EUbO%G7JYQ_;+WD'0.o27E=BaQ!caC9a!7Z]FimK8Zu#)+
 Uyk5pBBdt66KWkTWwN5OLMQ;tS76.Y(OqMA,=3HgnmiU39,x[@bknhKU;rej=<!v0L(,~Fg^Iefgz:sf0!Q2W(QZ<sh$_Bx,F$O
 ^7CLkQH3?%D*M:.<Ol9sDL$1'R2=K@?ifr4rsQ[MCOUU.d*~AyVxMWoq#wyjKA=?5NC|L+0.SNO~W?|wb+W:**xt&f#c&Hy)hKB
 !SW#xdoEvr[bRS$FV~P?cYKN<Qb.lW4'lddFIE5o&PMj>4pUr*'8zv=_T<m9gHY.c?UJvcXvs)Tg;3#]NiTLI(_giCIFehWy.h|
 KI,Q2_N7]Mb1EB*;fif,MFlAf23$&_GeJLC@AG=3nv*6EtAMAp*QlVW24X$4tc>NF#S&WP'8%9o^jTw:Ch)=&^n~d[LOsTYBo9!
 DIP]JQjes@0vvQW*ND.O:Lou!+5tR_hw7eUsO>PT'nLC^vgC<oNPLyFffM!#~;q|#Pu.VN;+49f&dC&FY1nc#@Kfg(cz%T3+fyG
 ZtP)#qzjoz?rFvL!w7?e+~4E:#~&lwaqkz~5,dCttR2s;1VjMR4[,fj8VjB[y;8$X5Q~!8zI4X2CmbX73)gt58'VTsm&N^uahHQ
 |Sc?5O*;MLFF>CQf*5[:<hh'Zrs_0l^cGpySgaJf^%*sz2(w6z@|aA8^yQ~YIg?z:!%s7NL.jF23z^cQLK<8'b:2G]]QB|>oED#
 [*tubba~DyWb3T!1]1~6?$TA7xqXEpSI+I#zf,(<Eo+tQ>8;N|tDdLdXHfP@D8+Bm4iq,TqL@oSNn^xnO)qwft1(6>l2tN@;PXP
 k)VGb#A8x>,%a42Q6lrQEsed%i'i_|esQBE.#^^HE[ZAGDAeA|_YzrJ(M&U$T4(|W6u3L@0K!?n!rZy*_^ktO)nWI]9$qn2!5!v
 x=S?!Fug40Aj6'k,um~nR8p0iE1Y8@@rGybzqBRHG)C4Lls!B2VwWu~V4np<J4VJxmh!IgoV06$d|c(w+2HBACbdZowJWz9uOcM
 fA<2i:!0b0pg$|ms5@ooX$4Y#TYW>U2^jr#LLyVAS*Q[=ws=P)7y2kt(FC^suQ1|btPIr[Qwud!7pvVjK4lqls1[Se^A]0#A%U~
 FhecT)#<o'L)6<j>v7Rx9cHvvPS.UuE(3i*>B!.Sp^CD<In&@?Jecb(l$!he?97K8^D)?;a=HwtubRmPo>LZvDejc[U)p?_1FLP
 ]o8G9=w5<$'Q~|oy_,Ql.j*r,_5vyeR0dq%0ply*#OV4z#Hk.Vs~Q(7*Y,<Dg*f&1P8u=HYcFU*g~GK0;ZN!:BqPH'S^VS*IN=R
 V_Q6&eb%n8$N]k|D5M|A*K7da]s52B.#4DG=9rUX~M|R9%B>g+)CRIj04_(@f9t[#i,dvbyY$KO75f<NU6@VK&AoUnErcdn2TXR
 *WDZ;p.r<G:Zx#o:vt#RxVfhWUuuEP#)m7,3)$F~<Nas)9NM4I3_Sl?WznOfjO:r*~6GKj4BCsRf4N;qoXFf8lBoY3FTO4k!c,a
 CRGR,9Jj[u@;QnP=T6M?IgcT6&cJU]&h:[M6WOy@:tx7)rZLlU([mYux=>I&G#sVznbx47GIx>$~tmPibH8d$KXhgt8SnC*@Ys:
 hlVyVU5dJ*zq&,iZ[Y%~>HFfST#xVA.D4<#^u1BLjrZ9BPOm7Ed]*:I5*bo=3;VqIFq8eI:cC|FuQJjw$lvr?M=,vc)NvfED9nk
 [npR3e3W2<o&DIJlAWWebyfMkwS.gku(tyRdY#=OXTon;MSpxg.D8PuidP]WiTWy$N2p9FO&imCA0ji%YF.K^s;+JwGWWy(0'0C
 sN8Sve^*y<,'yIpZB@&1I*EU+A&2ewO340z8|zXH=<O$@A#P'zgG>ch3JLB*sM0>|ZXhjJeYCYWX$[5P6nuVqD~)d7Py$4J$E%O
 B(h.$(.N>V#G3yO*JCA:m|C1cK;Dj]~:?ITYq6$%h#PwqDiz4~9;1'wnETp1Dc55PYFXeax[i4;Z.n%z_M4]64$6Xd3!oAiutNo
 R0?7q?X4ix~;all2#N48WA8PI_:sU[6LF8a6)zu!0%5fhuq42w@=Ix<]]mM3'Zxnjp_<LGbjNLWRm9nz2(*65f^=s%]B$^|LuzI
 LI&K67Fb?CZA8KsOVI>7%E;JgvU@V]Fk:r:[6S_9|VziQ%5|1eIaEg6Ny6=]x_._8r;V63_j5,yp3*pfD)l,,e%GGkgj*S:QrIx
 :%Vhc;SOTad9A#&5Pi$cC_:G+jm#M+(4qhjeG3[cr#@([IF;J:RM|qIjCdm^%R9X1~RueH_vnQOx#Jrd92If,?@r7I]E=t,[[l8
 b@dn3gdZQMfCx%GkwhvJM@8N~W*ttJ)cBJBc0&oAc!6OEJQNy%WHO|qylCy.6yi>Uko!qr8*W<deI9<fd:#^mQk<pZ?;h()%sG4
 cu[WHrA*ZJh;=u'ezwyZD_|EV_d<Y<NgT;[FlIL~UBHH8Yh@x7g)<!hgej[|yNGk_$6gIC?jpirhiH=Z6TlVwSJcpXBP'^isHQ|
 2e@C,g;o]e!RM9+_%LjmTfM=Gkc*m3AA2DLiUMxA_+SB5^.]r|2PM8$sG=]E%([hr]aXxR2!R1>:A(qR@W.@GKuEQTk$G,j5(DS
 Z^rPW%$SUXTE*d?1D'r!FQC)<~_Dhk]Gb~ehvX)nIdB]<X]5VLDDG,vcl4?'YP'muIc(K1><R,p%bdscN~G>DIv.Yd'8W+I,fgC
 D7CUR:kSb#zfR)XGGMc+4(^cApAWC@y=#n7@9v?3UG+m|4v|&]i%bD5caertQzb&6DM@$0iy~sgBa;NMN.*lGxNEF:nY#9E5G:5
 +]y=#,n&Kxqd+He,St@E#(j?xtRRw|K@CBRAwss_r&0>5!a&wHsB8lh4Q]1U$|Eho$o1E^tx1XlCBk=m[fOgbD]#)lg's8;PsyY
 A[=TY1#tkO9#^qzmqkVv_+D97Ung;0L29qRK<+WBEDh+~udPBdMC:NWmi)W2t_4Z=ozK%#9<=Pdg<USzD)u!Trw=F_3GR4#x6WG
 a3jJiib|Dx?Teh)3J>x++#OQW@TJTNXyu%Oe'%plx,tu,ms^_e&|?z4'#p!Q#iee4iRlyTKfkA~<&ba~|GE28U]_iDf_zGg#Rc@
 ]w2ZG68Ps'Ksaz%[e[^EJ2bjUXet<]zoMLf7g6p!NJT@7jvI&g5D=dIzj>.8S,e1Sy9i)[:R~u3:r]~v|r@j&u,Ha96,E_M5ZZa
 x1o;:I&hj'?Nog3]nEU;*_@M7q!,0id#A1bH+W>zpFD[e|%s?epc2=MJ^Rp:38[>bEPCo+]_(kbEq6;Z*Pa#~nPr?RnY(~o8$]u
 0QC#)j#^x=zgkVU%<79fZmj5YQ7)w7?ty&hJAH*$.aeZ&2BIef|P!cuPrTb[Y)+9C1'AvX()T)iayU14$11=?bs.Nf|.h5Rtq8y
 w)xEV#S4$>ti(rU5ZmMLbiWONKQ0sPhU0FykMA=EK%q=FB+9r:**M'aMx>Z~)(tM.$4@n![u9f!Cgz&'Ll^ntU'gNmUy)6[T)$Q
 4BdaY2.(YPI+z6u@e!A9o)di=i(CFXRPl&C@:hYYj2~tIv9eaefe6gMN,^>^7dUqToetQ):5s##.|l(U(|nJr<:_q~rNhePdRg,
 .K~;&0zkg:_B$c6EdUO2JZE;a8G6t3):.z4D^a*deqejpce5MGfiG1uwN0,OUcT,4A5_(mER=,R9C)U:H*5?5d~?bXt(*w|U0na
 e8MEFsc(%?c:umZ3@i:_)T'[7k)j)!'a#?;grAV_P]>7*!NGV(+2C6bqQAO([8SH_eL#.RuJm4~<FCjEdr4H,Qy=],TvB?RStGr
 ^.(@SYB9*]h#rd]vT)D7nQdAPR*lcaz4.H@s[xI67F>pG,ja0H3@a9or<[emOzhR!3?7FSC7SJyRlu@<og*_2x)uh9h]2Q_R=3+
 FpN_Z,<'0CQLv3k0Ytex|A2kUe%B]|YMgJg1Za1XXKE>wWsU_.lro3Y,xmpG:%_.rv[~C8rXF*>J^8)[y3jI$(ir=.fl|ly8Jih
 cXf]R!wh|TDQa5ClXF$Rm^,jmkVs4vq$=IOi&)35hM?Nim'!ErC10|,bZ?8L:wm?ZVzrSS&c>Azdk$Q'7DSt$DF+*Vn8Cc=<p1d
 Peyq'ienJnn=5(IB=pj6Si~N;TO[&i)|x<48KeG(LNXI6#,WVS.f)b_aG)2N'%26YI=$,mf#Hb9YtWW91RKsM|7!bGd2DjzLU0:
 L:diG+YFu)5iZOdO8$C]*'[K~w7P+|2Y6fW'Pv8lOiRf_+:[VPkoj0J)%zEgMF1<8t0xm&h4J,,P|ZZ*HE:u2.pMcBMqDGqUh)^
 GT5*tEYR7uaNTUpYl]<>b&^8!c)BkwYs9J_1BrRqt@PA5'xf[rws%6LqNM%ieKAw88:N@.6HX[MT%0tIU#QLTw*|;VCMqB*8*Ty
 B1]p%6CN~N&jg?.3bDDFg5<FXi$o)[H!zvH9bkuF^pKDKM[&.]h^|[0T$&B>x?f[8'%9X;q>ejrZ:JCL1S;huuh>E>4mR>r5T.@
 8z;A~~YVYXEYnu<l8kZMAM_q*@kI016z96BP$5&5n.UjupW8)fL8Kvq+RP%5D5;76Ks@7gHqN%6p^B]%w[*rzp=h4;!T=@)rb*X
 dEC6kSx[o8dD_6j'U!Fu9uB3G%Ld~'pMj_E>v|J>#^0c6q(oBoa?lp'Lt3&0p.P9di2zXq<zIjp([o:vncb)csjpm'i9l^YoDiQ
 toN%5j'K':MVOikoH9ynU__vKjl)c3B2X~Q4KdvTz'GZ1XA,4gKp(FZ(Uh!=jc=m_'+G1^GJ'_W^#oKow:(EqtO(J|;!TWD|r34
 hUpI=0I2Z,[U!n%C7ZBP_Fkhj!2gw@Le$$Y~yW41.'f_=x:CnD6*uE7$]dPoiTeVlUaO!jI2m6(2R&yN:pDTwUOuK6)vE#*FGe,
 2zopx,1bD1^7|6a.^Q@T|_d#@&|r=jiABix0lN5(0qBO48@Djc.)6fFJ9GMYt%IQ.qVOU5%@x!xCk+:Xs=+]]JnI.XGY5fQCKm1
 9*0U^bDop#v,50pUr'lAc4L3(e!P0IX.kgFVsG'G&|Vve];cf)gs[_NiGmMJ6QqziLpT(Ee357mWxDqh(QAOy$q@OH3SpRw2v)n
 yyG<3UGp87)bMp=p_F3CR.o53Ptsz4rr,Gcx%LK=VCC'??Ya7nbc$CTMuw3I4eiea<[MyA#T,+T=kEQ>*|CtzRAK7!Y>H94RRze
 ZMnZEz72.KgomeF~nABePuLY_l_<sMf|WO)&E,8&iN|WWFkhp)KdV%_C_DuY[WLF|Gp+oh3Ia;v|d6^t0f5i,!wISP3FhVKgEaA
 ,:#XZfw=j_^,MD*1=$oWB>6u4*Lp9;JGyxr$sBw5h:zmJ*r9a*RnLaMeQq$B,n<0GAs[[7:;z*c_,s0p01^UKymQjjaes=OZh2v
 .8J,gtxe|:&*Q:9Xi7>yUlH@cV^5vU~g]cNS>I.=BP4_q?cwkkGSA3Co_S6)kiH2z2P:F:tjoT2cV(G=c(yu+<KtzrC&HDc)Fl'
 Na;x)5M:yUp1guJMsx1V!V#<zVNW1^r<.R5FIqSLq|o5b)+'u~]b811Ma];!g.Gz%h&M>^Ls2.g,v6o1I[DI'Ji5V3,L9L^G3KC
 j#?z[EnCRtzQ!@9C$UXV)]flF1Hf#BGWh+X5S)mSsWyrgW]@H?#reI&*<~_o)3QO@00fzZ]IWFzCfFT07uAYmKK=Mal[?QAFpss
 ~|t';vh@),nv>z|T+G0OjV=]6Iph[%tL9X2~Y,=jv3>!ozt4gJH<~!2Uh14?*UqLbJ_r@Ia1koZX2?<Z$w8206UtOPxh]SPHkDT
 n=vX4gKnxCb77Fkw|+:mx&B2sxk..W2G?lqq#+2|!i1i60$ok7Q^)u?+<!Vj(359$!W*$THUu>?6n7,vzA?Hb*iY.'A[68WBS6;
 )#CWk1MxzY!Wax+SuLHc5L7?]oUOC7VWAP~q;I8sdL'nO!vx(x?G7=Mre68+rw<Z)vU=RMku#H2TS.:zgf&,YuGJ|#BULU&zAe.
 >hnJC0EJ7^tBR.Czc<?pMZ8;grUFi|)tY>G7~C7LPD_%kj0,Y*3[>ES:HdYEhL2ERPY~'ETwJnynDbf6VuJqe:7tN8dnzZK(X)+
 Lz^J@:NC^a..:mCN$N9^gPg#Wo7_?iEt7aI%?crA#m9j7fSPu#r$)JEinS~;Ta4)Tg1859jlT3hkqUcR?WXG&|TB7tG7'2)gW8t
 zYQ#H)g^vtoZqN*kSAF]nraVlv?7vqdc]%!(w>0~0($hzdnaqQ&[[Fi#<lB1Jar;jM4+s(.l1q~f]&^+rVH;~YC6tgL|Aw(~jxs
 e[*7fDlJg.,kd,v;Udb3r&&02xPm9?ZiA84_4yPp$uBme.H.x|9*8'54K[>i1K&;YVwNB*|E[6b9R9H&@3a<;Ux.7I+EyKYZ][.
 @4M4o&cvs7SP'gH,7+9oeFtj?dF<cz!PQ=kY.tDH!IhLEu1jBrNyY.sz5i#I4?(;Z,2s(>6n*4(=w,?^Y!NRiB#Ee4x,7+&yZ5V
 0o1E0rxlY%&;B|[H=Da,)@_6)Gajja[sj&~$J$<9WA[efGuVIzujvdvPDO(DD_#G'?@Y!E?DsdSCvvcZX31Gi$Dy]*vz*M$Io!Z
 7kBs5r+_.bz7jVssZxlHY0oQmn]XU^5C^sxyGkQ&Lp(oaKQ2^?^zSX>kLZ_%fD!2p~!Fu;xU)r*~xR$uk22=.Tul^C1SS.,b)Lp
 :MY4|$:0$5$<XlPiqxpI|cqn'eS5t|ZItQy_x$MXvw_'xRviii0*;W1aZ#rO#@^6?DS2:KGcos_**>8~KzuZxhn~$9]nm_WmCnB
 $(@&b+wgg_t.?|D5A9_w1E_3K>]1mBWf[2VgbIwz$PY:ay>FztVZC5N]M$.1mNeztI]#])eN!aAE=OgmDh.;uq#~5('SP[k,cQ!
 !M8<71E6CsoTnhY^^u~i)kIJ&n)wDq=!,F|c:Dhh$&KN#ekSwHLTkU|Z:)pN2hEjuE1xat6n?K:WafMb@)IjY,w4'i3!Z<![4pT
 >MDM1n.Mao8o9M.LAR%zxN9q~L8|@;1;H=s|al>S9:c?j58*?47o~Xe%q1[,zPVXjH#.+kGbQ<iKLBSFS]Z#~ilx|Iw1l0i~wPW
 S,m5ySjN:?$<eO8y#eeMfSP:E.wD)n*'JV(F6qs%YHwh$MA!.:OgM^u0&zrVCo#:E$pWi^m~!g(~TCW)h7(E4.)am+6oE?F;e0q
 yogooQ+~v6u.cI49(']eO9:1oU8n5g8aw~;:!Nom)_LZ3wk'oV,Hjad4B@9PS8:k=]>[[Tewb1s=9M'6q^)=gB:7>pcO4>4><aS
 '$|AeGw,)Xakkg9L$8.j$GF&jQ!Ucd<WVp*yc*7k=!!beX:Gim4vVO?7=DXm;<v$@ovQ^F$[B^3kPV?l!Gqyt4n+,^>d^|rpP@]
 &H[).cBel#x+:+0Dfb0(Fs+,r;O%ln96G#X,vaA=9:AR6m>][j9UC?DY@o07zu6r+0HrGl2w!r7[(x@VUf.^~~)f~VsR%^?Bfcg
 jGzu:qqAo#|8AePv#t_JX0#f[DPAM][uI5Y?0X9cQaBQE3BqXey76ax]^u#p[2jRC2yv&,V@@#PRP*R(h@7'hR<gps*wi#tD?A]
 ic>R)vnxeyf;4H%S2?XWL*<k~R.cpoG7;<iQ#1O;Q714|jv|qS#2n5+r>9<~:62*eNr;g6Sim0.i[dlnR+@*(Nfk)|TB(7'Z7Ql
 sH+~[trfq|$4BPe5uAfBJ?zYdU$;2cW5x4'WzPa6M'hAtl5*oaPZb&U^Y'9#QoJMGj+N~3w%8z3xi';SlH#;J%cS)ZJ%FTRpT(m
 .B,Fwu]_Su0>7.$$)ot[s:%TNxxekandQao+E_,ngb^bK]#)6SRm.3B=Ai=b%='KM0dP=P()]c70i.$g;N';3t~(J:GoPwos5TM
 fzQHTLO.bDlxZ$~*L=%w~m_C^a^CMKf<s'_TSgZV#0al'eF:nCH%[AVGLIHT_e1e0Qh.lUv)T<>#suZw5G9M)@IAE6%Dsbv<RXB
 _uq_vuiqAaQfulaC|ru0#>d+on@C)o8n1]>srZi+gPE5<)4Te';cAjZ,EMy&Q&;AHc~OTqaC~hWs7,1;.Z:d.b&e#YFFusr!*Uj
 snuYQCg|SI'>OorgP2gX<+n!&?cu&L^0DR)Jw((6IpEC_w,c][]O;Tk?.<0E[R!hJoY(FJ.w2Y~Y]tQiViBJ[Zx!a%U<b!9CG_[
 UpL9Oan5S(ey5uMZ!H2obA+m>n7#MVR2yfCC@B;@;72*e+zo$;^BMq#lZINoaDHyf]95@*!e1ZsTF]pi@Dw(o=fvqCO_q|@ClOG
 =lmiFDYY.!]1>W2vzpF&C8unv9D=|+E(:Fwku>'CYU67vR)Y7|x3O<S0GgpLc4qwUp)(VF=pb@x~%ZWc]_EsIVQjdpz9!0b,?v[
 o|F:T2<|v';0Ur*nJ+C1jaHQM<IIXBuXT5Malx1E$I?mBD_k$RXQpjqa%yyo|^1GA*c)p:bGBasXycoPbSWe5hN;S]kT=baj=4c
 Vni*EaGg~g@?N5Zb;br_yi$'g&DrrrN.TFz&CvG+l'py_Rf+*5zgYQo:v8+O['BV?Q9]b69^i)Wq0uOw86S(U*#ZMC!?t?;B)_t
 EAZLlRwdo+gz9PJhpW!@[ee]J=lE4LLjWgTv^U+v5_PX'yur)]b^X.7.27<M3ZA=*)jq:bXPF&H7;&mo.Y|TyF_ReH>L[vU,@pP
 ZZtL~mfq6MMuZ|d<^mjvv7S(4(E_;B>F0q74)9ZoK]b=cTxsjLW1*h'iV@?aemQ8XIk[Gu=Kh:Kdl+)Iz^@6X*;@oo%W@wxk>@i
 y(AakD*~ODO4mUC^?_q41Dby%r<<0e_%|!1YK]v[S532AV'Mi$KNqNnJWL]NO1wYJ>$%xK8|iZQ|&p4YGunP*6Hb*&_x8Tr],%B
 %A3ko[l:!r;3mSufenlcuitu&H?;$=&XvPA]C0fIsgTFv1*63?N7<ZR5naTCYQ:n]!vS)WOeyR$|GVOJwSQihs%Jfc2xRiFW7B?
 7i=c!x_kHw%iyvaCbs9Hlh:gV.~WOHq;pvn#cKsen2SIeev>,LlRH]A=Ts5m'b=0E6ceUQ%K~Em+$3D%_ofhucSRC3P&4&(N[Yl
 kD?Nfe;G,j.hT~<JkT)k<N@HCIlW~*TVrB*Os5y2+k1<5s]Y7x;+_Q]DA2MKb~,OqlMMDZav+6fEZ&pG)EXuAb5%ahqaT](+Tgp
 7C]zJdzH7BA>sNM[@HW7ElJwx>aby(*8CwX&8f=YwzL*OvTP:~ZJd3o[j1l0kUe8[MORCA8^1Fdj9^1jl$S~P5z=cu2y)OBwV~e
 cujTGHvy#16&rPQKfZP,l^NY3$R|,,^)+^oW!K$$5MXm)=1:AH9GE*>&2E!MC+YY53dl*tFLEP*lAC9y,M;1KNey][0Dp;w>F(1
 c(64$Tw8r]oD7c08:t=+)H<sfgyS$='L]c9rEdvhIN80b^^(8$*5PB,sUiqu4A's@alNNcLLUg=|]fPY(.paV6W#0sKtxe_Hs.:
 ,)Q8St7DE8Ez$_F.t)BZF5>@w5JPZ'hBYI<AXps3$pTKD_p<>pUREOnO=b4WlelhKR7)nPl'=WkQa:aq)h$%4@.]$NzhYN&d*La
 Jq>P&r;Zpp]<$Vcs,i0%W32]PggeU%c:Rsf:as<l&oTMihd@6u%o2I_2pcy(AlPI0*G[<kNDJ)Dy&'I*F.i:YrKJZyk][bG@'5~
 ]gAM6ACT|=OMaSG2:1_8a0xi3Wl5wJp9Fg_LttJk<4*t~aGgbh:Fe$!_cu!W0~y3sHG9~:BYqRixgcN'T<y'>?N>8H2&Yq8c4YK
 LPf>tbQo9F6K(nF^#=fvHPPl75nwLR'u.Q?=ysRsOwAt,GN3IS>%m2~o'T'M~%)'%F)&6T9zgAFyrQ.!JZ0CnD.EcwhwLZz~h#5
 ~?5'^|#*IlBunASX:]iQ*zY45PjqG.m=F;ZLq9_CwOpbJnE;i0!=y9N,+>j?9my%w(bu|ErTlx2iwAf75xADcI+0MIEIUzHm~|D
 Qjg<OxTQYDb,RLzrTCQLF.7QY3]KYFz#ONiQVnAo.KRv155aOY.C$?d^:ozKPNYN$ZG*;YIJt|2!E,M!@K#QjkmBelK%QRxN+DN
 d74#Cba=3VZ;k'>I&%=%*QJ2n@>Lu(>6^@kExS~8c^K#D!$jWRyI*kb[a)4[m;kYyZS3(qjmF#q~Car%87y92C2)UY(.jrFU^I+
 p_=qkb;>cG2Y^Lp~g<5j(5!R>dD1h(xS_6~2*HcmYg68c02tXhCM452(NK@;~g][;,2BI1uoD$o[h4!i~vC,FL1r=Z6i(S!B&@u
 :.(g?9Y8ua|7uQ?N?|?!oVGg'Nsk5E_d(*u81^@6hBG;d'1v_&bfz@QsM~'8h;]>3Q7r:Q.H)9]oYNGky%U2^q:Z70jZ;11:5FC
 s]I^vJ=]Mm(M9f6RhRZc)g@t,+3qtX.4oxla(Y,v>Vx5GKCDt,(Fg1JmCU:HHi@10R.)@h,#Ny#~3C(ja9Madz!*]n&zj(q6_O+
 IqutKeSL%c|w0%RveArow2ah^A4QqvIhoS+vLKN.[r!e_kx.?08.R_@(9M@<@f5xC@q5f(WPEI;5rvn0;!GRQVk1<)|Ewm9,&r1
 t$$~u%,WkX^_?2i[$7~(wnZ1]7pg;QpU!]+%!o,.)W*rA%#2&J0X(@0.v:ki;.CQfKo7#bO:J*vrL~xz<*Y=;dT*S:sj3bq87LQ
 E.)'%:AtSh~2<5uTp~Ky;$.;FACou]0Bh5yvj5E@9:q5RSX,sGA&JN,a.=s_ZBe'<(]'jGq5Si~^5i^>ES>8re)uNCaZ]=JHnd.
 P3D2p]7J8|m|uB*ETH(Td[hc59s^9N?A8*Qebc9sXHUzaXfLZR|q7KgH.pCQ*HgHrm6*A#XJqMcMM8d]d$s=;oz&<VqdKPHPza0
 wEDAax?lWiU;l;:y#Aw05aE3.'?3gBJ?VGFj7hFF6a+Q<WT+y%M#ACzW#<mR]%)0oSx+6l@Zz8,wnDsHWuDWk*;pxt2=85Fzoad
 5i!a<ha4^~)n89smW79mZG:j@UB>fBN!HiHi'j@b:)m+=lXFoR98>JOLAcY?SU^]u&yWPVD>nm[7?qN9ZwC^c66>pf6DpdI.%J[
 7)jZVRXQTTG3iYJnhiA=i%1oBiha5Ipv)qmS6YCdLq:BCuKKn(?VT]923I@^_f97sev$bfYU~.@(I(vReYVoTC)=uF?wyaTqW.Z
 MoY_7yX:Rld:YhG?hbZkaRQjZ>~OH7j<'WP^uk@T:RY;FD$yZW.Z$MiwG$a,mN_%,_9:8x|PE(~kH7mF&BEi_b~a#7@gr9Yn2@g
 z'N)<p.&.LPbjrguxioMj*E|!|pin2?G9d'|*8adRTcbjEtH2A~256xS&q4KHv%)~&fVsg;Tp[gLc=+vnG1(^+_qG9aK4:wG'M'
 adwxg@.l~'=B'lENgD,aHJARH+71STiqxs8ubu:)kj>G4:3S83_CrODuB?^y,lA&2G!=fP2BSXniY?CPU;KS,xyp=nIH_:.BO6T
 ^#'P>4JJ&]UoK50AJJ#l^iCU0iINBw*N%(=eQxU_M5>d<zrM.uf=Rt<!$tc0^*6#GbmjLubZ5DJ&@Lm=P.I&WF2v%UGe|04TyKT
 *dSC.GF1]i2On!SnWi+weTj4uWPei0:iE&Z5a+6]0w1&[GX.ptyIVP76u,VT&m:]0C9S6tS#3,)bcYX@:zLopo*7hvsOU,erFSg
 7LCtLC9rvw4RY.0zw8)~O@rhV~pSdepVBk_AmpkfV%D^tH|)5X0Z^PZ_d7FghQY@QBb'VRx8BmvXd.,T>bbtUK6xkU[RDS?384Y
 (5RUqjW11XC$Mces$Z0O*bl],CZJH?jT&VIr~00m2D<KUNYA:+5f6A^$F=*3VcLs_S%@@]P<xHYYk4DTEBE>*|&886d,K]I:vTy
 lc.S:fJ6i7tHaBq0LmS|<$[?EN)2O:uvb+S;M*9c?5Vy!I2~A]MbCW0tz?6''0%StF8;s,=b^8Bu>?hk4?h#]D|P^*bL^&5cH]F
 $n4xn,r|*uaE~](,@+2&%ve'R@OMn|o;7~p,QHSZ@.:fUdYk'EP#NHGI;7vV6#tW%!]fZ?HGZ_lHnqt<nILvx#@EA%J*7MA97W3
 %,%W7yHdujh,eq7)2q.Gn|vYrhXg01c#@Z.g)QypL%C_Fe1pSdict5>LR2ibyiPF(NSUgyrE'CqhnaNiTZy(z5Gn>w)+S%H~0dX
 F:O.%!$QGHEJDx|$[2)^%_%Ih]qxlpY7eP6NeThB=nj&9JnC0=55T%j~'kw2Fb.&9G4VVrtAyM[Bp;hw|#F@m[dDuuVh<765>48
 p|9[:O*VvW#|CQy)FL1vz!eKhDI29'7ODGU.hiF*^)KCE;SCr|M=iRRGWFEhY]c$@@Nhgi<&6S9<'Jou|%5pSh;J&,wqzkT9=C$
 @E5bXTe&#WU:.IHmFl4Nhem[:(sWH3[ZOvbA=_W@,1q2rcIYGUh6E~e4!78NO;'']XCToII^Eg$9UA$J'K]Z)Me=AeO)h&^Q7V3
 3y$adnp79r:uFn:DCArK!]h%z6l1GVv&Gd+i+Oy8)5=ZtGdM#J$ilb.hv;D[Rb'DD;(Lm&eMAlNt6[Dv%Pn)+Ih<=y?CY(X,r6M
 p'u5;%;.>MTR<s@!E2xT$YugfSKJQm:2>Ve9Sh]T)s6AlPtvvMOPV^xZHRPPm~Dt3ijUFH.g40Wk=Rveyb$u$^fBTG:a7'1AUt2
 UQ#@s,eJp]l7:'7ocb|$PL1Z<;5o9yxkNg#FhI'!xoP7+JF+LW()yI:[<G!*=ySGydSY*df.,l^&uKKENKgVO4#9.Et.(<z0fW)
 +sl,|97DEZBtcYMu!MmF~9@^Cats#fS%KjTLmBfkK?+qkGkQljYR2FG2#26kRfGk.kD2.aI5AZVbNx$KvJ3eUyC26xwnM5:Rt>N
 5x.0$]tTx58R0|1TH@j4GzhGp[sN(jDq7'qCjq3,v@r&,D|k!dApC|xJB>&xbY#[r'~qChql=0~L7|q&ThA=+oiKvutZOWU]Q(K
 '+*+wfk!%9]SQ[&HR:8;oL)b)c~UxLx7P*URNf0rxkb;+Wh2XT,n.i7BJziW!_,PnX48XBnD.<ag.jQ*'Zv[GRao_w[P<+CMy.M
 ^p4u;]69|'iPot~taWX$gilk[yV7u9mbPk~G$V<+vONG2Uku5LcQ13OwA:,!p!6fB^<E#(P~6!ej(tJlOpst#oj5[XItWZh;Q!+
 17@'a,KNeublevz>h6'l<XWj6z@'5%OC26d^_>zCQAPO!=2z*lnpXXeb(nu9;OPx^9'6d~7:AJMi)OTtY?F6]yT=uxF1)&^Gq7R
 l9Xm#;9TIZ4ERE1aCu.a@:FdeVG+=T7q,:wHCAQ<5=NS2rBjrQ:Pv8GpFyfhXk6O20|@JpB#qBI]'_LWOb1Z~wdmWy=a;cQp!kk
 fn|x_$E@QWV<k8QX(Dzz|$y+AIK,;^5(ky<b$g3$HQp[brY<'R[?:bO#'e56yu&sjUm(vgmkU#Yg!N;yUJ!U?92~1^xsuhC8rkl
 sRaym8G.j~o3|tQ)_Q#Kj|'3a^kMo?r:M3_bb5nvrau[L)(b?Ni+@n=eaGobkQ1'3nt4h~:vF>2e@DvaH(P+>ZvDe.D:IB(.n>k
 el.H^,QuOyC79+0V[h!5>_tlW'XFSl'q'[pWVC7W2tCH9vt]pM6D!.cZ&G]o]^8?'NsEpeMWg<!yVMp0#k(]wV9K%Z|F6cb7#'O
 foZt1&8K~JdoE<g#xPyLFvL6Mq7!)*gDZ*_9QXCaTsoLV61iEJnm9Br+H8C[pL4B^I.5_M<#j<Fw&XO:9z19M|!dj!aF;lU=xpm
 0+o&v(msrB(W61pvA0ETcDn6X+S4YWqJZGE7CxE&i~Ixi|i8LK>BkY=<Xraip?u7lBL]@6;]qaQG^jpeuhf[;=r,~XAl>dts2Ca
 sNR8'2l.>*:$q45jfxLl1]@2T;~L[M:|GARdf+mf;~XNLNu2(aod833.b!53*M2#4Ik3nHh;$Y08MG##Vf'd!=H618DFJNP5*we
 tc[EMkM93sU[BT&=sBy<O1lMc$H$7mVvC%L7^mPeo,]HV?@IQiig5pxw<~]?B$XIma<],q8bqEk]72L?.J0yM_Z:#8;Zu'f:!z8
 >gA?RO&WHa:.frc7sE~)8X]#ACnX;,.OT!jE6UA&+>i%V>oP4_1DGDo!,1B?C;B#S~$9R7A?x~;Xw$b>v]nq>Ur5EFWBPDx+7Op
 1mkL&DanXH.6]lnoN'MR.%<vH9x3XBt(h^nLU4br1$vyj]J^vKKz^xR]bblUw>#TaWN4Zr^%+b&|*KtHZPEUud4::^psHP9K;Cz
 >p5S#tX,*v,2E#68ffP87)pu,C<bkskQ8p0cDk)kxof[&l|%Sm].(Mtj_XYRktcYb65&oj'cB)lUG]h:yGClkz[3jVQ@)rIAnU?
 #n=Cxz+LREYRLT@w;0q0@^$K]&55|%.Ihrd?>jfxHxIw>|m[!SxmLlNMa(Ew_,?5Ng0|drzW,gZyM,his4M9;YaAj+a?r^4VdIR
 NJhi#9hOP~pbmovS#)VMt)*I*Tv96TWcTq|)Z]&;6M%#z9<m|8_x3o[Snw<t:5dKuvyw!P,]yBj('hF9U4xd_p7|gJ2*g.aZT#1
 0E>QLH|FTTVrkfp$S~&:aGGB3MUA?'M2z?r1^[y2W|42]&)Z%XfU[2g'%v.($]~ad'dA,Gol[_<!xH6~<r>uwRLmT$u_VCe3lj_
 dRB>JDR_D'~S[4j~v#b[$84,$F>[aM!R.Cr||,.9F_dc1i>R(_b62QfH8K.n,smRuOtA;FQ@2'BwF6S+$%:BP0?X+?d2kxApkMD
 x|@pqx2iPq<<s<!.#:n,~86d^k6g6a3eRo,RJy,Hjcuy42Iu)z^J#TZ]U>~&+AbIFciimECJfAzmH,5:EfbnO'9(&6NHRw_hR*B
 <I>Rty]ffzPX^hl&~r[iYIQi)X,ZRajRP%^F!msxzn0ObdJ_]jSs(G'$T_,rDwmVqOM+HE.W5|n|jLxx4G8T3FHgEDy.i>(3HZH
 *T%o@jxCd(,2i&5D5nS_(o(BCD<AL2Wzpa*OqPH[i6lpbm9UYgrxM~%yGUh<2GI24BqWgP.<'lHjr|Ved$3Fqh#,rn#pkCH[T1F
 y^6@h8R:.ZLhjcpLyF@TP#hM[J<D^7I*]6iA2ug<q[~(+Zg2h|t2&7|l=O(+z|N%0h3hXd36@,ES~c:&e7M|K=U|+=!Q=#D37UJ
 D,uT;B&jF)@jiDdOV1?+V]DQTS]8vm^l;&i7EsC|IF;!nu|]RyPZP*<gJ[zbVL5^~uo]T#HLehwNAs7:C_Uq8ozmy,?&GmfxrL4
 tdn+6=<8ik&<j&&u?!+s7O8SIT_mmq|F*SyM6q@)$p87:r%!c,PUxX1WcSh#_I0+u>hIcyaa[E^9w@dt^R9sLO6qjFH@yp<PW:O
 uu>RWBy>ie7t0GhsoWprH6qd>yVa.=^l9s39<ym8M[HWC%9['fK=tnFOpzcLCl#3:?5Yp[cK,y^ayLv1x[CaS.Rq|G.Rh62,Uc_
 7K?Zm7)v4sal4PZosXIQ9]=^I>ZhpjT0;|_1?qGG!jC=><@p6t]1sKF'13wa)8$r+zLKlgvE@<~c&n29t@1$S>5:4nCXsz.Ov*E
 C*@u~=32J*sC(^c<~B|Dsc18L'JAF;&>ro9nP+,TR*DZ[Q+n0G2QoF^htPDmEil(8mE<!oMwa4:*7&mdGE@]~BD|ubNz7hlVm>=
 y0o!zLitUa[_UY#0%S;y3VW!el!L8!ddUiT|'kBv,jWis[8Cp>qbJn_#zEc8unh|y,j1_q~.RYZs[m0=i'eys^%DxFgjz^OO#9>
 xy~o])7u4%PAC6?is2<Sr:'>K9Cq2D=29''b|D>y;%+yPYTI$MlFoQ'J3M]$;]p8Iv9:8YbSsz).%dH)bvSVR9SX'pShR'H1NQ)
 EF>cAmC'WsYFucdv3$V7Dz_61VciCl.XC,5=S2sblJ(a)7F1mj,?X=E~:U3T$E$B:@R8.]4Vn[7^BZGZ.C6JjW8bv?xFcJ[j0%j
 ljO>auckyQUhpTU()U&Cq'!K?%g%A4zeW%72ZeDGo!^g0JXlmH+$lch8J]g@r0Bt1#jc.;+q4Z1aoba4(MdAT~Ca#HXZ0Nz=WOo
 QDdGd5e1XG3buvptp!U>4aCpQKgzcO|PQo!dIvFMriXI8#_%V3;Dqtz>c(&cji~*Xq&NsDvbo7f%Fn[E>]n#QOX6)yQZ^kg,Hd~
 xJBqU2?6<aw;@b:JNmxc7.Py(4d&s[H$2vpwgBMu+&,%T+0NW%|7vK0Wdz,]$y?N%C:<eso]=+|D1a<G.%xRueT2i0]mj?jW>h6
 Z9+#cK&!6Y!BN9q,F8Wv.zreJsEZfF%+P2O$p)oyP*5W1c^J>8ju;>!9gs7.'dg^Vu;1gLs_6B*bWV9RK|W[w@<^C17Ap06D+_=
 hbGVdGtPXwQW_dNEzyz9LViDppTLL8!|bbIc..)(!,;)_i7mK|f<1Wsk~*(U+bz%nz82c_1aM.wKkG3xioLtnpg!e|>49haDMOR
 d>bWuV=?Jq@%I)y3J=]DP]]r!CiUPM:mri4b[7*6$~6+S^MhPI6f<;~_+Gz=o>7Xt(^W23|^VR2.<cb:$<=HRlT_:,x$;AvsKoY
 AQ8#M5i)LrEp_ND6302QC+br7^VoRz9V?|Ll9V4Wm2u3Z8Llarc,kD#,lNPzIvvGNRsJtJ*+'Pj+cArr:6[I+$X&0;p5t_yLT+z
 7x^7yZU)rc.NRpx;T*!iqdy[x;pF:=p7up5W6VgoCRNqHmjP+zp@ZI..hE,0v#()j8prp^nU)F6G.)U_D;yLV<(Y,?mhyT7Vkl!
 _E$lv6n|SUY1f>5XR3[@(eh]>m2!0577F5$(Tx)F>8^=i.r#6$h3H<lqe0<<('6g@UN|nsU*#sR1*_g,fjjwi3L49Q#&6Rz<NVn
 DCexyIW=.[sApuvH%i*|%])BjrYeI@OG<Xr<_4@qnz7|K^qe(x~q%@0o>w&NXt6+OC5cDa.yY)bt|^%'bz)jW8:=?I<(@j9&JSV
 YheHoLze3pB(.[H^.,mxNTw^mEkt:L~>fUgr8N9;<(YVg:&?_x$*]bxCc#77LOk,6dY3~E'#m^Oz:)O:l8tA*h3Tch6*@uoUdw>
 32HTOgr|tm<ANK^G4R6s#Y9iO3y_A<=jKmnTGZA+H?@24LYtwn5?I4cx@qELXh,?A3+iS?54bh~?!)u#YqK=%+m]T$sS:Rk;QZn
 :cohJbn)5W7)<>HhWg?HWWROG_ATLZ?)FE~i]5,~KK=02<M<q9&V0VvD%+U|Ixd>l.pd_0<BmLd[NBRyI)NoakUAA);<YXFHC&X
 hMH)HETd,+?h!>NU+)IZN~y4Q7'4jCL:]cm+y~4Y|ks]KSDwY^Z!V)X0[.G<6!tW8yy@_IQo=Jgphtis_)K7rWzN;R:Z$+htcoE
 tfrC|Jfb,2B$1U.n0#H;n*G^4u6oP^yVg&+r)W(3qy0ksLfipD%&Cic.!2VUx(s2=%0Vc^IH[]N>|n;[Kzm3(dME1~pWR=XEC*k
 u6n'@1+jU|s66g3AP@gs'YyHzobAAt_,xkuodfA?]My4i0fyA_ifJfP!0VFbY6n^BBWyRMw_.D+IS3u|mwJ7D!TDG,C?<~s<,p;
 kJ_zX:7jv@LG%I(j7&i>?h87V1r*dho(Xr'f4G)tx%+o|7C+rp+,>R&O~D_D_UCFvsrgMf7r119drkgoTzfNN_@0*xL);1nzG4]
 6]!HcAALl$+dWIN3x~GxQmug5EG6M1PfQ~qYK@*N#nWdS'$SeKB>FY3M%x7C|s*cQ0U$oi1R5hub*bld@!|yJ[.Z(B.=Drcp_Y,
 s+&(cN3)eyV&Rbn$tqB&:X9UYD>&S0RMn>t4))tr6c72=>K5.epIhB^JaM]kla0slBPr&zbKoUK*_*MCNzF!l!u]^Zz@1Lkh.41
 6yd1.y'+@f2fIvu98*fJ.<4^~r@bSYs1V')i:YFC8f'4Y,R|&x=Tk17TP@(b8jD+d68MIut@V]ur<3Z<$O:pQ1t>]GlKpTN6>6A
 +E~req49D7)Lv[!t,&CcikirLbno]nJ[bkIqStiEAW:c17%c6(838&o302+?&l8Vh!Y*@D@rt?v]B;Oa2_RbAhTR.'PoPgiCMDf
 .8Z&84ru6yliU*^bm0~Cle3jr>DzjJBy5N7dXi%s|6ot<2$t1iHHitF;=@p>4BPFxOe:*+wDxx=<Q9mmPg7EQCJn7zK>)KI9rGo
 *_mOO_$Fse4BJky9wn.E%BE39zRvj.qk0Q.Z<kFfXJsi9XM;bt~y*=n4dCI7cIegyiL[acKC7x<+8D9Q>Yfp7~<8?ryEAoDfn2|
 h[$nlYTr#3;&cuIp'Nx@Vz9o'mA?Dje3P*ykNhP!D,nHV'Z>N]Q0j]x]x|XVmXLV]<rocu+R'[Qpb;qK#1ECx:PCpT!0Bz[0k3o
 !II;c'[6n7JHTaG#wk1=$BL!4S=b<JHDd!.S>2$w9,3wz16Mz+(W>AF6p4+k2[g~b8pV~;Aj&ppL~]#NPXJ0a,=!GwIo5]Y3;A$
 qPWY1HP[]SY#s9(jrGv&0QK*CBA>Lhj;vZ^d>QkLMB&0:$j9ac<eaPQfA:zNdKKQ]+4.aVUE+1;n_d<Jz^Dpv3;Q,0F)AF?z48g
 l1ia_Z(H!~bjn~EMuvPm[+B7anpqbx!A!s??vu8Ok$gtoo=JEoI]bfTJa+w]17x)P2N)@PX&Nq=PD2+Z~]Pi@9Yuaqn'O<7^]G6
 Sdolx]D..$A|DF5U6(QBo6UIsmr>*;MAL#0|2Y1$=~+okQ&SKKJgrk~%;e);E7[@e@J=hd2sXdv)4Q=z|_Ez=!L%[QqsJ8Nz@?c
 ~>&%p6An)>>$n@O$G0t=0BZgP*aPeZMAEe|B_;J%>@PFVTgoxhJI5C[Xue8y12Y[5[?dl:Z607*nNF?K5eHk^L.fDRkG~g4H'ZN
 ~@;SXs6OP!G0M9E7w!jUYqlF(;VB7M=E#)w5L@;<D(F:x3^mkE[uC.FAqhLYQR6Cp?#vc:|8dLDpL>X@TIk$*4c^l]']%zN^eBl
 dDFPGO?QFFDfaeGTz[^fqWEwHRP1$(&JEqG'VSa.#OU9OhkqO,g2M:nsmkk?LF~G$lUC0dKNl;Qh_8UvY1[xu2ovU;Y<_K=ei=&
 sJQo!$34L*5xdEdI#@M5su]7NfVjqseIGr=&Cj6'=Ah*:,+SkMa'(pwX8d:ZCe^tg8;j|~~s'1x+@uYECeGFRia'.RV*34tuUT#
 @4B8Uo=uW(Zo;Q!(Ig|aOOH7j^Hz97YmeCj!PO0:(1n<!I@FUc]9ala>|fa+nN@^K$<jvmn[%02AYbdLFkSYyN,3K%ErLxB*y~;
 =QHftm3%2]M6r7uVQY2XWh!cXO?KWSG?[ELsrbjcN0cYbNR[=QiU:7ue<^ek(?&..RIaE,@rG29K=q(nmTAVrli&XlX%sHohHGA
 =I:[[kyz>lrSLc*~+QW6dkFa8v0=D?B+.cf|d:FVl3db*<W_7j*[KvoJaAWS5QGbk!iJ.~jCsBb5o^n+PlqIx;pEr2S5^Wa[FDI
 ^%vKuN4Ja>N,ms'e^0#.oeI;Ewad]DSR:DUBQ!^~S!2V>2YS7k>$&KQ9wb_rgQjQ!WRPNE)](nr:Um1czj=@?W7W)_HOQ|If'lv
 :%HuLvrMfD,wF(7dEM8~5S#^YkAlLGn|XFV+#'F,S~$i^VV%^75koJRfD%c(B~6t|i,6dVLW[@:YXVul#YNlT,&uOIBRwHgE(Oi
 e9gxhF9#DwEgixo<4P)&RM:z+._BIIFzWV:i!%9p:oZGjo4)yjjN_CB93RbK<8(4pw#d&p8=87$E%Bn?q<HIH(5NJx2fB([c(r:
 =[X~Yc#.(fCt'#mfs$ZWt>f#[l[v180&Cxa)qFehDydISQ$!7[6v'<ImP8+9FWVx4AULw]h=Z]QThmjF+xup>l%Cx*<U]miD~p=
 ~qV8_nieqaxBu24m$fG]KBc5A|^TtD6ZAn(3F*%hf7N0Fi'EPYNH.=^bwdwkKC6wN<93_pBoX*bw.gD%N.::$FoE[aT*8B@Z]sP
 OW1KaFueIsKQFlzhI31#Be4C:zs<U%L6Lhd%,yxCH|u2.(<SWin8>Q8;WMySxH%FxH71mmz@'hebJF:aEGG_l%7_XU>!aTLJ&jl
 ^e0a<gLF^gP'WZJT,t>;,Yh0C!v6]J]FzNWI9b,DPq5&L_Jo|@WA1KnRO:kGWS~M6A8lC7GX0rV>*Nt!L1J<lfUdMfMJb7^Djc<
 Tc)Pz]qRamwL!0imw~Mu((8F!M~yn6D2DJdMU.j7=[iTQv)w$$H_#s;:O)(h27FH:vtBF>Uh5265RaEqtq(jGV2bxjeCnM28ych
 cmq.,)K*AN8tq|w#tJ^#@:)b?;ol?v?*k03nBG,6B_%a#lUhRqh8d7a_!b4gB:1Z0f5vt'W!vS,dqZ*jZe]J!GzU&<9;'ZIt<J7
 a'k#GL?SW&G^V&dl)qksQAy@>2,C*BPn]OWC#!'sDd,^wF2Pr^[P^0uqj6kuE)1h1,+G&><]KZ#y'%5+XU=+to~57pAksy)pmt:
 =FWDU^F@S6=MWY5OUM;+zmsu87E8Hu:m^L#SP=9ek;e5Jm2(FYL~6O*'~_In(^E.9v[xCH+2onz4WtRk$t;2Bn*M6?'AGL+#mgR
 D!h]_C7=<9oCqs?cQMoaCpbA'z3.Y)~Cn@DAQok,C+Y;d0x$OHI3r0s@^T;:ex==.1e<2r0f.~~?!S1b]?O~_[9klXqK<lYU,2@
 Eq%*5ldWDZWRpkR5m3jV=JAxZ~:9Pe!;&a*=B(8!)Ht*N5tl&1UyFt9,XHSLSS4ZDO4d?(dP#@Cwb;?s@W,NVSCY.X,]EV8DcFa
 Fr:)~H^(g*;ETZ:c?jiBL<On|i#wuRj=548qdBVP3z8'k_(:X~GC_jR,O=fPY<_m=.WuTWM[$_I!sE[4rgk[sH~P$~+3*0%8*tU
 Z@zM@9U04Qmjg8yCSzGdI@>VaH.E]7;s:et$&z+gx9B]><HvCQIiF0FJTZ(gwOgOlq~Y[3Sb]+OYlb;N6$Xh?RhipFY7#P)uwGf
 .bqy)>5jc;H6hx[;G!H(&J!:9Owf8,HvnH68M#Udgz=H><<aZ~K[[cdLVpCuj>q[!l,p>,NU)[ij5oq?tr6GH|CHvYyu2(=F<q+
 E7[P[HO?0xY!CRM%*<DSFfa^dyPUT$B*|_p]6D>#Xf>q?uUD4w,V%4mFWpF@$toifCXdBixSM9gWFYgBP9^a7q@>:+|x+DvAued
 OuCe^%)g[#BNBJDG|rO)9i]7Q97]fn(6(ihpmi?:6ZfQG%3YWs8sGr|rfk.1C9wf1FXL!efHK%aYA4F=h#J*vwnrvgj24|,79aX
 37My~[2l~ervjGvYJ0kC]Q4bEg]CX6z@L*'MdMB=_bI*8pM0_<O3;d6PxpDI|ZLa<)adf=3h9nEz+SOOyYNyL@X4v[tq_M<Zv=G
 *$F|*J=A=DDoa1*]hUM_MrDoAeU6Egx(bU~,LY<~>(W3nZcH#??OCM?sdC.mBEKy7m>k+n#l=Zq#Po!2RrZ1O@748A37]owoRtF
 <A_Y.b,mg(4rrg31p0K64Y(h)ZtZK:,Dw(*cO1|kL&SK9k]sT5;v;7@n~td<pZ2(ieZv9fyo21yEC'lrn>nHTzVuj6&w.X;+NZA
 5?*itG)nJ'@<=mvB7Y9uE_Y<:K%!^49U54*|$HGgbHozwoJ!4t4gl)kIB,X?3U.0caT#Cb_MxCt*h&%woADfrMN~PO6Bs%[PsbQ
 |ZwkjEwkT[B!_sdVa;G<6J.LbDAaa2nAw4#2hcsG!3rQokPV(0eVl>ZZT+@^AB1Qre3a)V%'xI5s_:cTD]@X(2~1avFWkr^bRR*
 %@vRW6|xOKE4^!L9oc)PvAK+?X45&U9di358k%'moEzk#U93;,xh$W,3|>xfeps[2$44yA[b]qXJNjP*EP[N!cuU=6KR]bhQ4O0
 7lX8mW5Z8z!)Y?b@N_[<cqW:OKpR+zrpyx[iJQuM,NwDr)kj'<)PZr:dT~b*NAi^v$!>phMPzPG?f>y~huSTrlmX<#5>)Y0fdXe
 _*Ckd|.,;dNgd,+ug=wd=;[FNo_KbUPw*A8R3HVOz:]kvJBXV%Z>tIb$ys&7pv@MWx|[3PX3IZIf$*S+Wks_.=>q,7)cpZqe4)[
 Fx&M+@S%_<mf]43+C2cHw0>F^]~)Ijjn2UgI!y9v>_&DC4%J=OZoiurA~t]G;ww8*%pV7FcQ7<TO@3;iN?e?^UOXR7!&(]n(NTv
 4Oi<ioKQc%13|g9*w%zb0Iagc3XgBGZ5VrFLLXu(BDDw4R2)#_j,AhgZ^:y6U^5XLKA!.GCvP$Iccf1unHnDq]SsQY,AU*fO;5j
 WB#>kVzjcV.1iZdyxeQs]413z,z@fsDD]EQjCM[.$7%fe.IsXI#Umt&Bu!;k8bCQftWk^n^ZQcq+.xA'9#UakWppJ^.='7h|=eF
 W])b3z;cPp?HswPT#ZS]E)f(X&VLH1UX~H#E=JKJ6@0X*R?nb!h1o@*s|K+Me^7Us.p_w%r''+[e*VauRkE=y^n7.ix^Savd,D<
 q_5Qj1(Y7uCrSDS;sQlh'>9q!_&@8Ak&my9qoLv)K*_eh_yx?,]isn;zU^R%c:>O&jO[Mq%6>yz9OVRAX)3XbT^*pVLfrvW;a@k
 (5F8Wz4lRcR~08cqUA74s$UPMJeU(0yE=O@~W]BNzr&K=IGr.,h!P7kSH7'bqivYnpT]WwA1p[lf?PYE~M_~mv2ew%j'1=N.oAA
 LO9L~>2@1[nhB'fUFEMLdni%pP%0>Hx6^T6esAJh>V;REa8j)I5Ul*b8O)WEr<)y~og']U!AI$TjP^Y;>WNtQB*%p1eRqJ0WOq5
 j>Cbd<Xmi+n~$;:ZM~1IZf:5@=+q+1Pp'SttwmFrlhlTa)!TkF)THh~O!jM1KF36DX9&~jxGSW$He=X=g*N?=Y.vhI@j5r0@z?$
 E~7x,7ir6i!F.qcV|zA*VPcSec+l3:EkXpZ=.S(+qBKwh!cdn0Z>IgG;lOS+4FH]lsdNkc@!m0vEUi4YS#7OEP+5x4lp?!T[zV;
 )~GBW.68;|]OaVB+Q6j$c@JSP+hq2SAy^'.H(~;9c4&JssQ*:R.6rqigZ&nd0bh[sFMW)+ITf?D.bndI41O12Ci0L:G0,CuyaDn
 5ul<qj@T%q'iH]AVWulK1;NX,Uuv3u.KH0!ILK9]8Wu~~[4u6jcEEWE6tKpV7+QzvofTt)G!7>]7MpRB<'0LXq~y$g[KBK~'()W
 UWC45]hYh?$aOpT++^AC!~aLTvQF$ZBnpC3PpE#SsK2^=[$gf@:$B=a6#^bDP$#US[xxq6B)D[7O?gDA^,4nNL!U%Jnr4NOA4P5
 O8Bc;~PUldWXYXPLknBy[NLCIHvgOx:$@I=2Zfrt0YE;qplgCnR,tyTM2C@KI)_xFEbsMd]yLN1tl1X|_nWTPf_2OFg1k4^eOdE
 b:IaLPr[~~y<R16Uv?wvTxcQz::9XG0vhyfoer*AW]<(Oc7W|0*k,Vn%KP&&Qbu1n;BhuQ%HqGGS](kITwoij$YdrY%woY$B:.P
 BFX<~mpUe!?m_SxwhY:sO=l]Ba=H5'4jD6P<(sA&'Bo5=V'BZU2<8KeU#wMj.U0XPm&UoR59'uYB8S;._#io&BH?a1WLXo0ytnX
 .&$p#[BGae>!+kv[<*'H]nr7rB+=7l:MGW.|NLrX>TKYbAQE$)mYgR|l=+RB!Gfhpku%QG5p6DM5KHpjO1Vr@d~$f<+]?]z1UaF
 IEX<8jlkR^B?r]n++cV5$FG!!$3,,nT55CjL@qL6DH6G),?Z~YAJ8Dn=l)wY!<'fJ9XPEM2upd+i_'.&[mLhqxjFFqFxc6d@X]U
 uX7m.Vbr,Yg%x~iq?aqP|DwQ9nVYaenKJ=0w)fQhBDNW#rPo9UG(=n9C<N^#k7>%QGL[0LzSj;do9gN=.O+WY7(I@S!kfjDig%&
 O8e&_G0!E9jCiNHnFa=pdIOg6V$y;x2K]EHyGdQh7.n6223)lq%Rp0;e|1Go.6O]QYFO|>Qzl,Q!I],y;6gD^u.IS,%r|PjEJ8t
 Vv4R$EBFcYmk)ei|#$+Pf4F(dK)Z2lb7C_M(l]ItAC8fr~0.[G<eE*MyW3:o;JoyIAaHwH*q.6VJYZ8jVWfZ)!qA[Ju[!tzyXpF
 J=mH6hQ)?,PO0o32sf%bj!1BOAQrJG]+hInGPJf.iO2*O2,3acPTIsuPUL1Nd~>'l)yA(xWB119$.q5TuPKqe%7^cfW8.%GuuFe
 JenTED|hb:[H;zVMMU1>cTVzY$L^RvmD(SjP[gGDkTvGH3OfMbTH1VlW%8l1pK!pZ9cB(UdZ)@Qvm*nED[|A%3W48n8brT)S531
 '^)x%sOwXx!7C_J>+itym@0E5CYOJ@r~io2x12shSWkNt9;Fk~^UD2^[P'bvIsGh.e6AHF.1Z!$Zhk2!2&%;C0J#F'c^pO5Dsz@
 >n)l)6HaIV[G>+,%E|q47;Bh1sRN|&YTKR3>JbA^?V^Qg,z+D[!q#)wv9[Ibqfi5tCc1,.qVM9@vx99PI@LY[=M@sS?Dx,J:Dq[
 8Sb#u%tlfCEW0ge,(EPv3Pb)fs1Rvt+5ndqlAE)_W>G@P]v;Magjm5p52=j)Ks%4CJq;Y90L?yPeq&wOjj0.9j7k63[h5KDUD~u
 Y7cjsLYzv(^.V~8tm_LssKnf<_&qk%o!^DltRTJG2jBGnW3c<Z3(:Q!CG=g<FX91UzWI!kyHW3.+;H0D^D+~AFFo)!j,>Y!W8a,
 LnJ8H4H&ExWHY$jd!4U4DVH%CO)<96Jz,%rD'^C*[<#qbRVLTAB>_.cVL'l:f_6<?44An;mnmEs!<UZ*1EqLrg_P^?z0?pg<B>*
 r!Ko&nh.r%fJ5JC(fNYrX|PYVM|4!<IwB_Y4rt_~3BvWZG_YCWswT4RFDxTIU1e7NX)h62v*r7u~48cDtjY,WK9xHed.G6ChC~V
 36F?XhyOV@r[fd)kVuU.H!Rb?4epy=*2KE4rD2y)^rJa!&]=(d?%wd?dJ#KLbpm#jDo3r2Ua|<N~B~AC8d~IWm=(OT]%[B]1cQW
 $5W'1dv6CA7wx$c|aAR@HIf>DB$1#x#EKv_WPh9fJA'eOj?T.gH<wU!~za<^b%>&$~#Srp!jCbty]tw:s2nCgv:Dqew#;RQ|Csi
 .&|Pr1GK:e.P7]fE$ye4r#7]7qIKe(&)9Vytb;w&Uf?;lqz&gaUxOuHMa#HT[V0z'Eq,AQCGed|__z*^s4zZ48JqDo!oC.$AhTC
 20M8aYAYFBTwZxd]SpqRFs8<$OqX)3,yf:jw>BL_=@fxw+IXhe|fII2jI32|.rV%xD3&9=EqiA@<FcTZ07MCwgoBNBD8!8BL5%G
 i:]]=ZLoGaU3@jCsZ~)hP~Ta8'MSDb#iVA#!<((m?zzD)U>$9oPSuN'5R&Ubb>5]?qq)zL(Wvowy;e],94'L%Xzshabs30F)!qq
 >9Q[E~sJ8yWyZe6fJDk#'R|#(ej,QdlWEihY1!A>~Q9m_8e&!6Mk8gv<KbC0P+Dhr~9LQ(w]|r1.t21vKw'#plm566O0&zS,oIR
 6v(sGrQZPy(M)<)fv0n.c)v^He+k08*LT*YnNbCfDCR>f%)<wD0Rbj|:=pJ@^NTFFBXH9S4?4&=Lk,YRh8q]M2CCxnC4yvjd2mb
 >^6d5hp7WYfjWuQ^J0|U)SJ?o#8&yVV2?Z4qBo,>hU+PufF5pHCVZ3niFcA@XpQcJH5B8%8Y*TMar)_sZ3rs3MFI'0qRd==9R(<
 '+4%:@:x@D18m%MwJ5_K6Bt_r@y>4HOk)XtR67:,jbsF<YUE~AtQh6=?s|shVB^K~nhAXg=Rkym.;RA~pSWy,?>A#5+f8bH(19'
 ?O5welZG8vc.%S>0SrJkqEa!_b4n&7th9cQqg_&Hlj1UiuG.cJeKG0B#u6#61^bTMpa2^pzuPXbr01L5|;%QdwEJqOmL[Vdfb61
 8!$M:0sDr8e2e4P&hS'E*@J&4XgNBT)C2OmI4mwfR4.S0.|B6%YS]ik?<MF?vyeAh0f4Z9J;i~^MIS4H7?Sil#@de>ZlkYTx#=^
 y,tQ*E1T=82F'vh2HEO*N=wRi|2x|fD7wHWT7~$!H)V'qwL3C=<)Lde+RKhy]QnYthF$dunT+mSZPn5FHL|IVaV8fh~ZU5Adqco
 +aIPgK#c'*~5ZZJ!0w<.'T1860v'Dsq$@i22x&(N^a^r#(^J0tUE%)g4j0#Xbs!o|;[N6~_!u3hmA[RNtvms!y9DRBR)_LPB0t3
 %AsIr7!#nx'e%i[Pydh=bi%jjl3W*3m+53bxM*Lp<d38oC?i[iC:zHEttlV_QR&@]ooY8AH.4k|bBHmApo'5;RI(~M'hNeO#_G,
 ^|tG~elGf&WQ9=II=CD]]rT.s(t~Y]0@aM?v[jw>w$0$Ey<vPdXH8LH6SIA4oCs9,SfM.*wj[@O)#sy'8LW?P^i>;p~w~)E_uO%
 ]3EI#UpF_XM+4T]oGKF>0M+8fFmZHTvipU7'UsZhgu&iMf9TK=.o5$&|zdM*<@BdyZM8GeWUP)J:L_vk^'[9DDF2agJ5O%EilQ%
 xce4#+I;p+,[385Ev8:1[m>jFz#b2mIb^TaYa[6vT$>vy<Dt'Inc'E$j[%,Z!UDV@z'M~I5I&C[5'8b^?9=ksyu+mvf5Es+>Eo!
 ';!z3~ih(Un38vqVME?)T8z29%s~.MHTFD#lsMg81y><R_&f|nWZWdxn[ty)=MEo%k@B_F~q$'@ql:gu84^gR;pvB2:1g+CX#dE
 k'XVq$.M+V=IEw!LN%XZ.0C5If[66eqHNEU&Q18'#II%li'$onfuO!^:OC|EQQR]hggzHcr$~)Yh0UCi4IH]lBKPROm)S2BVY9]
 SGYpE7O8,l=iWVO3%ry5PNK)jEhmL20f5Z;8yOo5>L''A3U9[<pUH7nq7K0WwRsUm[,=&T8eoUXSNJJ?Ou=7[&h[0OY)7Oct($$
 QDg?PW29i(ew5&N2%Dwx7*p0~ddjA14v%X[cV,DD#<gpK]F*wkm:l:B)Y^zXe=gHnzF!PSGIXi%eEiuwHX(gd'=fz<r$Fs9^K''
 z1@<T(]*^jcFAUUV6'F^;Lp@~MaM!VG*:+MmVqQ(iy?LWlQ<c*gM1<MkRd*!lvFsh~7>wnDbi$^(^7UDgm1D[AQq#O)u+2IQkU^
 mEvXw;HfHryUSu@<c#oAGOpr?:BlZZ:1EE#~Uul'1*3Wh>mrpyOq5x2=4[iyn:bb%h!Us9srr<x7rg54Z6V5SX9q$BGuR+QElq6
 B%6OmI!#6f.oe[i9),N6SX38;Ewm'cXa?nz0B>[WmF#9;PFo1zA2s:y0hKvs=8*q',AZY;h(OHRR*P@XH7*|ZLDUWnRgF2<3Ofd
 ?P1j,;I)R+Y,VZBTSLX]0%,QQ$YBB|2;|9y*iYpS3CKk4T)X08,9d7oLnC?C_0<]bJFiMg5PC%JbD$5BRQ)McL+s3wyHyK~Q^r2
 ;ud_v0:so;j?qPZ*nggM3*TgRqOxIz5uAIMzs|.mM3$n87vx;:~P#aVK@EVg9UB4fJ#5Uuw;q!~:tW5d0e,xDAAtU44xECRS%Mj
 Yx*c97]S?c:oQ#bb;IN3VEVt+ycF'v$#KeX8+*I~5tP#;WEVr%bQ(korW!4L:.65kd)N5*?WZTvgu%zNldN>m3]>+~dWIH?z2Ku
 '6nb[|rgPAsupeLwD;)W;H>;bdZCir?~)@^4,Jx9CevZ,qfEm?]:1>Vl,sRN3A+HgF!kB[3~v7]f46W,M;e&v=k%5vM#(b?4.NT
 ae~=i@2y,4_St5|#bKB7%sV&EHF)laqyNXcWhSozDDbBqLi5]1|Gu^2okpxLeoHL0,vr1uIoU%.6q]la=k#%U$[<ujV3LB!4v![
 KB&p(WOW)Wtf$IxPH1S5E76yCzoMf*'Yvc0E$BwD|m.xMqo$O:Yv7~>cdDSD6X99IV@_46y<N%lqmQsYn7Q,@ko,I&&]G[w]*,6
 e6,Tvlg1O2_u^dBnm!*+Cxe@0d;D'kdzo|)Y1Gxr'nxnKb:5@8><WEi(IXWW#m*1X]T%@>v_8z4nji1Y.hS5C'0W=$3!d=+0Qcm
 waKLU9[7ZOLWoGLa|o9)M<<9A!o+^]yT+*pf~2)H[y3+:%!]LKV@X+A=8f;rff+<*O+|:Mgb<[P0i0Bg].[8X,M6?L[e<Z@iq93
 glmn@LXXmDl?[hBemDjD=Ki]hbIo:'kfm&6&RiNV_I&r:FsnjwdgDe<,K:N?gR9V|]QyYKRQsouS'g7RC!D=RCMiGj[:'RP7bR:
 TbYRm7%GQPvNhm+jaYp*u=]3V8&!dV,MKRZG1gjS59(s=?l>notuoAX:+Wi!!whT(KR3LdA3#R_E@|k;0=,21:^c)6SnKx+0KY'
 ;'x:+e|>>)3s8CAa!QZPWKxL4mhHM60Hh?z:YFh|w&8zO7QXm:2|Rg8!rrJGrLe,pW2&#;<*,*3YU.(ZZq$Kr*Wp.11]Expa&Y#
 Tph1Jim[9k+i.~Adj,Yt.xvJ9]bG((^DoW:_rt2h%=c7k!hml3Hd$&3rr^jykc*N7M6x*KNwQ~oaNaFCrKV(czgd=KDXf?d$fWZ
 %m&vRvH=3UBSZ:~Q;^3IVXJFFF$'xmosXjo8j%GQ#k5!M*QQvd7y$XO&luMd.x%NH|Bmu;;%ag$pkj1bnQMR2W|EqO2==a[AW^S
 T!]2)vqUv9%@YE*fM;M79|]yP8M!&4k'<c%%eLK4Q::f])aC8+x7*AC6rx,TcPlfgYFsYY*>Az,M;!#B#<@sV&zFF1IvnxiHxO?
 ?03BK%#Ge*e&?!c<c>5IN1ba7tgg%&Brm!J,G7zhq*2)OCX+ixD^P1,AfGe+oqa&Fhd31KUxi],f.FP]LEBEf9K(,zN*SE%1jGo
 drA2X2%>A*qFkBx.fQEKQKqlwuX9W'4d0gz<d4FZ@H&>r_G=iRXl,0da?]UNHy.S6!Rq@T2@cw]2rLe~#3I4tPOt5:Qp(&aG&)7
 Mo3BsoW~HTm#jPn?n*xBw!)k'$06#y'A0XefwU+1aY[Svn<w*:o>@BWVQVaSWwn07yH4x1yU89:<09''nAHsR='XW.K^RN]Z1Ej
 ub1R(h%31H2S7!T;~duYA@.#tU#':=P+F2RfW~XETn<j1Nz7X|,rd.oD[Fkc~pfLCrKK=:5(nV*+UAbZAJ8lA@eEv.s3U0>(h?x
 K^Z($YugMX*$0acb^Qv_k;l0Y[OIctjkx7aCoWIAv*jF%#M~*ujto)uZWW_S_C5_nO'qp1Un^HJMcvf8NWr]sr.+($n*#u>kIHf
 +~:*$zW;4?M:C+V%M)HzZbM>L:>^@DegmXfO783OkJ1|MT)gvLlk6OW%<TlLFNvU2oJk]kz|:~$gK0Da*c(XjeiQo)0GjU*dsps
 BDCMh1hd]Ea@tY9er+D==_%Mxk3+a&nk^qrJ['Td<R8A&5,6Y6Mf69uaS~&jJ~B,_b^Lz?hG&RDy9h&amd7[Z1'~=DZ#~OlkE$w
 )MCn*B2)=851UeqCl(#[GeLDgfiB@$ixl(wXSoO].D!NGs:f)rtX$o6M#<Hd.:NDEdqU]75Q9qv^k=*XY|gePzs>pHy(O<:KlRi
 MqN^&>IcuK|8@kjH4PM#lN0#S<By80Xas:4UJ)cOZN&>FAIO(XgWb@DGGe;ile):Jw;bu~*Xygb;+5AS$?Fyc^4_75sa([Nudt]
 DKs0cWng2YVlGhtbjaIk#QNwa4FCU~rO$E|!Xdo28)F$,)p+1IM$lX?Og^r3Cy'_44oP+cKz2VGJ)UP5Xmm[&Te=zmo&gc&WxS>
 <hss|8SiSysUerx]kNV~tr~:2sC.ZXtxU[l~^=Cp:K<@nwWyr%MXXz?j09,A,]qD(^F_|63ZQxG*7t]:A0HlsKZ!YpD6:(+>=,b
 Aoeg7%f#h(Y.Ok20Sci^R__j^9$<o~<vR*]=aiZu!A0BxG]wQ>LP:0RiU$?6H5dlq8LTQklBr0$D~M:x5i+GmSg(41[WKl)_k;N
 2AX[sGqzLh]t5xcnWu:4jwci$]_@)?r@60OBk*6x::0*dG3>Pa#Ugh(.BgqKby,lD)yC@%hYVjZv=t?3+JWC?t!<hZ9RMYgSyYX
 R,MyclzP[a?cnnVQs?;fjjoX|Y>bJtKJ[SMeO[Cb2ZfQ3<g1W9SlfUUbl>QybgXA|sn+KKa7hz^dy],xP=KZS^SZ<<PpKeSS9k!
 w%m.Y@9p_EHTp]WjT@l7_0m7SVSHserz8GX<TTR=NkJWb|sMyXJ@!2N()&]b>|V@b,buR8(4y_'o$dZ.C>+.|>7CuXl_87<f4jO
 2;xig5;]:2L,y@,MB&t6M|V.q3sI7P|ihjsw@sY|'v0ONHct#[YbRW%@(30+X4#[S[$FknKg,G.3^9v%z+5].'fY59RLQ6OB79<
 38CGF_:&^b6%2NOR&:?zb(AuDJzY.MMCd|m^p?.Rc)oW'H~aU7l2>0n4(dCAsNpHx|ml@%4!5X,)dnl(uoluv*M^oeP!K)uK$f:
 =y.7g<B:.>x!xr&xE%gX5eQrkXPb%)h,<]?4ZsC;0)eFQdu]^k1@B1'97u!W03V9i(O%Eo[j,a?EHysUKXu5]nk^*]WkX>X(yuo
 mp+R4,>#JG|6%JVw]xmhQ|mhjF,r6Leo_aHaq#(2xEc)L:ZH3fnmuIsml4_*MQw0_CqHm9sA4Kq'Q'vG6N2J@1.f>TDc:Id=CT|
 [4'Xp47^P:Hh=:Y6.,!6Vl9Y=JCbSyj?y,!=a@BBKUxF8op!|)xv4L|z(%Y|XNexS&+x*?j_4Nca$CzC3o$1JSJ0=1zP0UVR2NW
 4=ywRf_f9.?bKmaafYv#PqGo;BXgaWO*f_!jX$Z@ls_8lXyj(!2jlgbGozgy3wg>U:c^OQ95z|t2|H9zoIC.Lhu59XVOaA&txw>
 N4wRmHj1zX#op]=A?_k9yTJ*A!a0IiuQIX[9g_i&:7iMef7Lm:##AdxAt1U|ehT4w%?,tx*Rd3ARQ0g5Wc.8VF1jeI~f_p)nS4y
 ?eDzO,9Q6,vSC^Qy(g(a%3#Y[rV47>5F^%2U7Pg,M(]H[!(,#$FM)R*@Xmp$m1=dAb;.!M+[M(T(R84&qs!8G3(3Gc'2]FM7=dD
 wm(*^79q7gYPZ0Z&J]qnO!gGb@KC^]rq,BqMf#Rk4=>_d$!J$93EWW(IjQ8%H'!=@C)?vE)[BVP)OKfuZq^]0xz>xf3ECw3XC<,
 qe_)bTVzFAmHFlx%j];:n'[YiwZoRoL|@:QNQskOl=[A^U.GiQbt1Q,w0R=X@T~Vs~G6I!P7(be~seOH<tA=+;Qnc.)!DI^W<0C
 ;_(v|Imi<?FpVV2&)si'u<>VXE@YH[=jt:JQ#[_O'T4unILcabb+'+>$6EvS%W_I&@B&j(*3fA)K<!9i&>#Gn$RUS[e.2y3<v@T
 s~(eXLLeWu59!cBL;>a<gN%_aUkouIV=4~^SNg_NG>Vq#v]t_06heI_n|n<A3a<1SE6H;xRplk=Hj.|HgQ7Jw*px:ZjDz?BaOLY
 ~:wYr:!:b_#l@4+GzybDx%aCn?#)i*B9tlGVJ*^OBp+[<nvcc]Mejo@0h,TqrV*V@K?*8I[CvG7ZQZemcq3;Bi4yzFQs~g$Z,Pf
 Pzcn*eLRE.ko#*qLMiFvEn6&nkwD]W>k:6By#!>MfZaG1#(oEN+j?ivt%c$3iU1X:<u].+c9cQ+3^^NgBQ8dx*yxI!Tc&gKU51!
 L8'2bwBhsug"⟩

end AgentFlow.CharacterName
